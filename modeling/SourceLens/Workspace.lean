/-!
# Workspaces

The files that references and settings are read from.  Paths are relative to one directory, which
holds nothing else.
-/

namespace SourceLens

/-- What a file holds. -/
inductive FileContent where
  | text (content : String)
  | binary
  deriving DecidableEq, Repr

/-- A file with the parts of its path. -/
structure File where
  /-- The names of the directories around it and its own name. -/
  path : List String
  content : FileContent
  deriving DecidableEq, Repr

/-- The files of a directory. -/
structure Workspace where
  files : List File

namespace Workspace

/-- Whether a path is that of a directory: the one at the top, or one with a file in it. -/
def isDirectory (workspace : Workspace) (path : List String) : Bool :=
  path.isEmpty || workspace.files.any fun file => path.isPrefixOf file.path && path != file.path

/-- Where the parts of a path lead from a directory. -/
def follow (workspace : Workspace) (start : List String) : List String → Option (List String)
  | [] => some start
  | part :: parts =>
      if workspace.isDirectory start then
        if part = "" ∨ part = "." then workspace.follow start parts
        else if part = ".." then
          if start.isEmpty then none else workspace.follow start.dropLast parts
        else workspace.follow (start ++ [part]) parts
      else none

/-- The file at a path. -/
def find? (workspace : Workspace) (path : String) : Option File :=
  match path.splitOn "/" with
  | [] => none
  | first :: rest =>
      if first.isEmpty then none
      else do
        let target ← workspace.follow [] (first :: rest)
        workspace.files.find? fun file => file.path == target

/-- Whether there is a file at a path. -/
def isFile (workspace : Workspace) (path : String) : Bool :=
  (workspace.find? path).isSome

/-- The text of the file at a path. -/
def readText? (workspace : Workspace) (path : String) : Option String := do
  match (← workspace.find? path).content with
  | .text content => some content
  | .binary => none

/-- The path of a name in a directory. -/
def join (directory name : String) : String :=
  if directory.isEmpty then name
  else if directory.toList.getLast? = some '/' then directory ++ name
  else directory ++ "/" ++ name

end Workspace

end SourceLens
