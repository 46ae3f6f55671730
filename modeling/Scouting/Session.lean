import Scouting.Folder
import Scouting.Json.Reader
import Scouting.Json.Writer
import Scouting.Picklists
import Scouting.Report

/-!
Sessions: what a command does to the files it works on and what it prints, up to its end or to the
first failure. A failure is told from the outermost circumstance to its cause.
-/

namespace Scouting

inductive Cause where
  /-- A request or an outcome that is refused as such. -/
  | refused (message : String)
  | access (error : AccessError)
  | notJson
  | input (error : InputError)
  | outputPath (message : String)
  | settingsAccess (error : AccessError)
  | settings
  | stat (error : StatError)
  | fieldKind

def Cause.messages : Cause → List String
  | .refused message => [message]
  | .access error => ["Failed to access file: " ++ error.message, error.message]
  | .notJson => ["Failed to (de)serialize JSON", "malformed JSON"]
  | .input .shape =>
    ["Invalid input: " ++ InputError.shape.message, InputError.shape.message, "malformed JSON"]
  | .input error => ["Invalid input: " ++ error.message, error.message]
  | .outputPath message => ["Invalid output path: " ++ message]
  | .settingsAccess error => ["IO error: " ++ error.message, error.message]
  | .settings => ["Settings TOML parse error", "malformed settings"]
  | .stat error => [error.message]
  | .fieldKind => ["unknown variant"]

/-- A failure: the circumstances, outermost first, and the cause. -/
structure Failure where
  contexts : List String
  cause : Cause

def Failure.messages (failure : Failure) : List String := failure.contexts ++ failure.cause.messages

structure Console where
  folder : Folder
  /-- The texts that are printed, each with a line end after it. -/
  printed : List String
  written : List (String × String)

abbrev Session (α : Type) := ExceptT Failure (StateM Console) α

namespace Session

def fail {α : Type} (cause : Cause) : Session α := throw ⟨[], cause⟩

def refuse {α : Type} (message : String) : Session α := fail (.refused message)

def within {α : Type} (context : String) (action : Session α) : Session α :=
  tryCatch action fun failure => throw { failure with contexts := context :: failure.contexts }

def print (text : String) : Session Unit :=
  modify fun console => { console with printed := console.printed ++ [text] }

def place (path : String) : Session Place := do return (← get).folder.place path

def ofLookup {α : Type} : Except StatError α → Session α
  | .ok value => return value
  | .error error => fail (.stat error)

def ofInput {α : Type} : Except InputError α → Session α
  | .ok value => return value
  | .error error => fail (.input error)

def readJson (path : String) : Session Json := do
  match ← place path with
  | .file content => match Json.read content with
    | some json => return json
    | none => fail .notJson
  | .folder => fail .notJson
  | .absent => fail (.access .notFound)
  | .insideFile => fail (.access .notFolder)

def writeJson (path : String) (json : Json) : Session Unit := do
  if path.isEmpty then fail (.outputPath "Path is empty")
  match ← place path, ← place (Folder.parent path) with
  | .folder, _ => fail (.outputPath ("Path is a directory: " ++ path))
  | .insideFile, .file _ => fail (.access .notFolder)
  | .insideFile, _ =>
    fail (.outputPath ("Cannot create directory " ++ Folder.parent path ++ ": " ++
      AccessError.notFolder.message))
  | _, _ =>
    modify fun console =>
      { console with
        folder := console.folder.write path json.pretty
        written := console.written ++ [(path, json.pretty)] }

/-- The picklists in a file; a file that is not there holds none. -/
def readPicklists (path : String) : Session Picklists := do
  match ← place path with
  | .absent => return Picklists.empty
  | .insideFile => return Picklists.empty
  | _ => match Picklists.ofJson? (← readJson path) with
    | some picklists => return picklists
    | none => fail .notJson

/-- The settings in a file; a file that is not there holds the standard ones. -/
def readSettings (path : String) : Session Settings := do
  match ← place path with
  | .file content => match Settings.ofToml? content with
    | some settings => return settings
    | none => fail .settings
  | .folder => fail (.settingsAccess .isFolder)
  | .absent => return Settings.standard
  | .insideFile => return Settings.standard

end Session

end Scouting
