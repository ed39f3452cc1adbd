import Hotplug.Named

/-!
# File trees

Which paths exist, in a tree of known directories and files. A path is resolved
from the root, or from the current directory if no separator leads it, step by
step: an empty step and `.` stay where they are, `..` goes up, and nothing lies
below a file.
-/

namespace Hotplug

/-- Directories and files by their steps from the root. The root is always
there. -/
structure FileTree where
  directories : List (List String)
  files : List (List String)
  /-- The directory that relative paths start from. -/
  current : List String
  deriving DecidableEq, Repr

namespace FileTree

/-- Paths have fewer bytes than this. -/
def pathLimit : Nat := 4096

def isDirectory (tree : FileTree) (steps : List String) : Bool :=
  steps.isEmpty || tree.directories.contains steps

/-- Where a path leads from a directory, if it exists. -/
def walk? (tree : FileTree) (place : List String) :
    List String → Option (List String)
  | [] => some place
  | step :: rest =>
      if !tree.isDirectory place then none
      else if step = "" ∨ step = "." then walk? tree place rest
      else if step = ".." then walk? tree place.dropLast rest
      else if tree.isDirectory (place ++ [step]) ||
          tree.files.contains (place ++ [step]) then
        walk? tree (place ++ [step]) rest
      else none

/-- The steps of a text between separators. -/
def steps (path : List Char) : List String :=
  (path.splitOn '/').map String.ofList

/-- Where a path leads, if it exists. The empty path leads nowhere. -/
def find? (tree : FileTree) (path : String) : Option (List String) :=
  if path.utf8ByteSize < pathLimit then
    match path.toList with
    | [] => none
    | '/' :: rest => tree.walk? [] (steps rest)
    | relative => tree.walk? tree.current (steps relative)
  else none

def holds (tree : FileTree) (path : String) : Bool := (tree.find? path).isSome

end FileTree

end Hotplug
