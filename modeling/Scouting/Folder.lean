import Scouting.Dictionary
import Scouting.Text.Case

/-!
Folders of files, as far as they are known: what stands at a path, and what changes when a file is
written. Paths are relative to the folder, with slashes between their parts.
-/

namespace Scouting

structure Folder where
  files : Dictionary String String
  folders : List String

inductive AccessError where
  | notFound
  /-- A part of the path before the last one is a file. -/
  | notFolder
  | isFolder
  deriving DecidableEq

def AccessError.message : AccessError → String
  | .notFound => "No such file or directory (os error 2)"
  | .notFolder => "Not a directory (os error 20)"
  | .isFolder => "Is a directory (os error 21)"

inductive Place where
  | file (content : String)
  | folder
  | absent
  /-- A part of the path before the last one is a file. -/
  | insideFile

namespace Folder

def parts (path : String) : List String :=
  ((Text.splitAt '/' path.toList).map String.ofList).filter fun part => part ≠ "" && part ≠ "."

def join (path : String) (parts : List String) : String :=
  (if path.toList.head? = some '/' then "/" else "") ++ "/".intercalate parts

def normal (path : String) : String := join path (parts path)

def around (path : String) : List String :=
  let parts := parts path
  ((List.range parts.length).drop 1).map fun count => join path (parts.take count)

def ofFiles (files : List (String × String)) : Folder :=
  { files := Dictionary.ofList (files.map fun (path, content) => (normal path, content))
    folders := files.flatMap fun (path, _) => around path }

def place (folder : Folder) (path : String) : Place :=
  if path.isEmpty then .absent
  else if (parts path).all (· = "..") then .folder
  else match folder.files.find? (normal path) with
    | some content => .file content
    | none =>
      if normal path ∈ folder.folders then .folder
      else if (around path).any folder.files.contains then .insideFile
      else .absent

/-- The path of the folder around a path; empty if the path has one part only. -/
def parent (path : String) : String :=
  String.ofList ((path.toList.reverse.dropWhile (· ≠ '/')).drop 1).reverse

def write (folder : Folder) (path content : String) : Folder :=
  { files := folder.files.insert (normal path) content
    folders := folder.folders ++ around path }

end Folder

end Scouting
