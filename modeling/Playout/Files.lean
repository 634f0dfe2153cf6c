/-
**Files in memory.**

A tree of directories and files, from which the program can read its configuration as from a disk.
A path is a row of names with slashes between them. A name is looked up in the directory that was
reached before; the empty name and the single dot stay in it, and two dots lead to the directory
above, which for the root is the root itself. So a slash at the end of a path asks for a directory.
-/
import Playout.Error

namespace Playout

/-- A file or a directory. -/
inductive FileNode where
  | file (contents : ByteArray)
  | directory (entries : List (String × FileNode))

/-- A tree of files, and the names that lead from its root to where relative paths begin. -/
structure Files where
  root : FileNode
  working : List String := []

namespace Files

/-- The most bytes of a name. -/
def maxName : Nat := 255

/-- The most bytes of a path. -/
def maxPath : Nat := 4095

/-- Follow names from a node that lies below the given directories, the nearest one first. -/
def follow (above : List FileNode) (node : FileNode) : List String → Except IoCause FileNode
  | [] => .ok node
  | name :: rest =>
    match node with
    | .file _ => .error .notDirectory
    | .directory entries =>
      if name = "" ∨ name = "." then follow above node rest
      else if name = ".." then
        match above with
        | [] => follow [] node rest
        | parent :: above => follow above parent rest
      else if maxName < name.utf8ByteSize then .error .nameTooLong
      else
        match entries.lookup name with
        | none => .error .notFound
        | some next => follow (node :: above) next rest

/-- The names that lead from the root to where a path leads. -/
def names (files : Files) (path : String) : List String :=
  if path.startsWith "/" then path.splitOn "/" else files.working ++ path.splitOn "/"

/-- The contents of the file that a path leads to. -/
def read (files : Files) (path : String) : Except IoCause ByteArray :=
  if path.isEmpty then .error .notFound
  else if maxPath < path.utf8ByteSize then .error .nameTooLong
  else
    (follow [] files.root (files.names path)).bind fun node =>
      match node with
      | .file contents => .ok contents
      | .directory _ => .error .isDirectory

end Files

end Playout
