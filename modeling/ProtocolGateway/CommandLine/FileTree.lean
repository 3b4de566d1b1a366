import ProtocolGateway.Settings.Load

/-!
# File trees

What paths lead to in a directory with given files. A path goes through its parts from left to
right; each part but the last has to be a directory. Outside of the tree nothing is known but that
there are directories, and the null device, which is empty.

## Main definitions

* `FileTree`: the files below a directory.
* `FileTree.read`: what a path leads to.
-/

namespace ProtocolGateway

/-- The files below a directory, each with the parts of its path. -/
structure FileTree where
  files : List (List (List Char) × Bytes) := []
deriving DecidableEq, Repr

namespace FileTree

/-- Where a path has come to. -/
inductive Place where
  /-- In the directory with these parts. -/
  | directory (parts : List (List Char))
  | file (bytes : Bytes)
  /-- In a directory outside of the tree. -/
  | outside
deriving DecidableEq, Repr

/-- How many octets the name of a file may have. -/
def maxNameLength : Nat := 255

/-- Adds a file with a path. -/
def insert (path : List Char) (bytes : Bytes) (tree : FileTree) : FileTree :=
  { files := tree.files ++ [((Text.splitOn '/' path).filter (!·.isEmpty), bytes)] }

/-- Whether there is a directory with these parts. -/
def hasDirectory (tree : FileTree) (parts : List (List Char)) : Bool :=
  tree.files.any fun file => parts.isPrefixOf file.1 && parts ≠ file.1

/-- Goes on with one part of a path. -/
def enter (tree : FileTree) (part : List Char) : Place → Except ReadError Place
  | .file _ => .error .notDirectory
  | .outside =>
    if part.isEmpty || part = ['.'] || part = ['.', '.'] then .ok .outside else .error .notFound
  | .directory parts =>
    if part.isEmpty || part = ['.'] then .ok (.directory parts)
    else if part = ['.', '.'] then
      .ok (if parts.isEmpty then .outside else .directory parts.dropLast)
    else if maxNameLength < (Utf8.encode part).length then .error .nameTooLong
    else
      let inner := parts ++ [part]
      match tree.files.lookup inner with
      | some bytes => .ok (.file bytes)
      | none => if tree.hasDirectory inner then .ok (.directory inner) else .error .notFound

/-- The path of the null device. -/
def nullDevice : List Char := "/dev/null".toList

/-- Where a path leads. -/
def find (tree : FileTree) (path : List Char) : Except ReadError Place :=
  match path with
  | [] => .error .notFound
  | '/' :: rest =>
    if path = nullDevice then .ok (.file [])
    else (Text.splitOn '/' rest).foldlM (fun place part => tree.enter part place) .outside
  | _ => (Text.splitOn '/' path).foldlM (fun place part => tree.enter part place) (.directory [])

/-- What a path leads to. -/
def read (tree : FileTree) (path : List Char) : FileContent :=
  match tree.find path with
  | .error cause => .unreadable cause
  | .ok (.file bytes) => .file bytes
  | .ok _ => .unreadable .isDirectory

end FileTree

end ProtocolGateway
