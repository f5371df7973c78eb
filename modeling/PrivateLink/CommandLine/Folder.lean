/-!
# Folders

A folder holds files under their names, which may lead through further folders. `Folder.read` finds
the file at a path, or says why there is none.
-/

namespace PrivateLink.CommandLine

/-- Why a file cannot be read. -/
inductive FileFault where
  | missing
  | notAFolder
  | folder
  | other (reason : String)
deriving DecidableEq, Repr

/-- The fault in words. -/
def FileFault.message : FileFault → String
  | .missing => "No such file or directory (os error 2)"
  | .notAFolder => "Not a directory (os error 20)"
  | .folder => "Is a directory (os error 21)"
  | .other reason => reason

/-- Files with their contents, under the steps that lead to them. -/
abbrev Folder := List (List String × String)

namespace Folder

/-- The steps of a path, which are separated by slashes. -/
def steps (path : String) : List String :=
  path.splitOn "/"

/-- The folder of a list of files by their paths. -/
def ofFiles (files : List (String × String)) : Folder :=
  files.map fun file => (steps file.1, file.2)

/-- What lies where steps lead. -/
inductive Place where
  | file (content : String)
  | folder
  | nothing
deriving DecidableEq, Repr

/-- The steps lead to a file or a folder that holds files. -/
def place (folder : Folder) (steps : List String) : Place :=
  match folder.lookup steps with
  | some content => .file content
  | none => if folder.any (steps.isPrefixOf ·.1) then .folder else .nothing

/-- Follow steps from the folder to which the steps `walked` lead. A step up from the topmost folder
leaves it, and outside there are no files. -/
def walk (folder : Folder) (walked : List String) : List String → Except FileFault String
  | [] => .error .folder
  | step :: rest =>
    if step = "" ∨ step = "." then walk folder walked rest
    else if step = ".." then
      if walked.isEmpty then walk [] [] rest else walk folder walked.dropLast rest
    else
      match folder.place (walked ++ [step]), rest with
      | .nothing, _ => .error .missing
      | .folder, rest => walk folder (walked ++ [step]) rest
      | .file content, [] => .ok content
      | .file _, _ :: _ => .error .notAFolder

/-- The content of the file at a path. A path that starts with a slash leads out of the folder. -/
def read (folder : Folder) (path : String) : Except FileFault String :=
  match steps path with
  | "" :: rest => walk [] [] rest
  | steps => walk folder [] steps

end Folder

end PrivateLink.CommandLine
