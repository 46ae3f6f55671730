import Scouting.CommandLine

/-!
The program: looks up the files that a command names, runs the command on them, and carries out what
it prints and writes.
-/

namespace Scouting

/-- What stands at a path of the file system. A file that is no text stands for one that no reader
accepts. -/
def lookUp (path : String) : IO Place := do
  try
    return .file (← IO.FS.readFile path)
  catch
    | .noFileOrDirectory .. => return .absent
    | .inappropriateType _ code _ => return if code = 21 then .folder else .insideFile
    | _ => return .file "\x00"

def lookInto (folder : Folder) (path : String) : IO Folder := do
  match ← lookUp path with
  | .file content => return { folder with files := folder.files.insert path content }
  | .folder => return { folder with folders := folder.folders ++ [path] }
  | _ => return folder

def folderOf (command : Command) : IO Folder :=
  (command.paths.flatMap fun path => Folder.around path ++ [Folder.normal path]).foldlM lookInto
    ⟨Dictionary.empty, []⟩

def writeOut (path content : String) : IO Unit := do
  let parent := Folder.parent path
  if !parent.isEmpty then IO.FS.createDirAll parent
  IO.FS.writeFile path content

def execute (command : Command) : IO UInt32 := do
  let (outcome, console) := command.runIn (← folderOf command)
  console.printed.forM fun text => IO.println text
  console.written.forM fun (path, content) => writeOut path content
  match outcome with
  | .ok () => return 0
  | .error failure =>
    IO.eprintln failure.report
    return 1

end Scouting

def main (arguments : List String) : IO UInt32 := do
  let names := ["SCOUT_RECORDS", "SCOUT_CONFIG", "SCOUT_SETTINGS"]
  let values ← names.mapM fun name => return (name, ← IO.getEnv name)
  match Scouting.CommandLine.read (fun name => (values.lookup name).join) arguments with
  | .ok command => Scouting.execute command
  | .error message =>
    IO.eprintln ("error: " ++ message)
    return 2
