import OnePass.Fault

/-
**File trees.**

A file tree holds what a command can see of a file system: directories, files, symbolic links and a
few devices, how far the files can be written, and the directory in which the command runs.

Main definitions:

* `OnePass.FileTree` — the tree;
* `OnePass.FileTree.Entry` — what can stand at a location;
* `OnePass.FileTree.Error` — why an operation on a file fails;
* `OnePass.FileTree.Limit` — how far a file can be written;
* `OnePass.FileTree.changes` — what differs between two trees.
-/

set_option relaxedAutoImplicit false
set_option autoImplicit false

namespace OnePass

open Bytes (ofString ofAscii)

namespace FileTree

/-- A location in a tree: the names on the way to it, the innermost first. The root has none. -/
abbrev Location := List Bytes

/-- What can stand at a location. -/
inductive Entry where
  /-- A directory. -/
  | directory
  /-- A regular file with its content. -/
  | file (content : Bytes)
  /-- A symbolic link to another path. -/
  | link (target : Bytes)
  /-- A device that takes everything and gives nothing. -/
  | nullDevice
  /-- A device that has no room for anything. -/
  | fullDevice
  /-- A regular file of the system that takes everything and cannot be removed. -/
  | systemFile
  deriving DecidableEq, Repr

/-- Why an operation on a file fails. -/
inductive Error where
  /-- There is nothing at the path. -/
  | notFound
  /-- Something on the way is not a directory. -/
  | notDirectory
  /-- A directory cannot be used like this. -/
  | isDirectory
  /-- The path or one of its names is too long. -/
  | nameTooLong
  /-- There are too many links on the way. -/
  | tooManyLinks
  /-- The path cannot be a path at all. -/
  | invalidArgument
  /-- The entry has to stay. -/
  | notPermitted
  /-- The device is full. -/
  | noSpace
  /-- The file must not grow any more. -/
  | fileTooLarge
  /-- The device fails. -/
  | inputOutput
  deriving DecidableEq, Repr

/-- What is said about a failed operation. -/
def Error.message : Error → Bytes
  | .notFound => ofString "no such file or directory"
  | .notDirectory => ofString "not a directory"
  | .isDirectory => ofString "is a directory"
  | .nameTooLong => ofString "file name too long"
  | .tooManyLinks => ofString "too many levels of symbolic links"
  | .invalidArgument => ofString "invalid argument"
  | .notPermitted => ofString "operation not permitted"
  | .noSpace => ofString "no space left on device"
  | .fileTooLarge => ofString "file too large"
  | .inputOutput => ofString "input/output error"

/-- A failed operation, told with its name and the path. -/
def Error.told (error : Error) (operation : String) (path : Bytes) : Bytes :=
  ofString operation ++ ofAscii ' ' :: path ++ ofString ": " ++ error.message

/-- A failed operation as a fault. -/
def Error.fault (error : Error) (operation : String) (path : Bytes) : Fault :=
  .plain (error.told operation path)

/-- How far a file can be written. -/
structure Limit where
  /-- The number of bytes that the file takes. -/
  room : Nat
  /-- Why it takes no more of them. -/
  error : Error := .noSpace
  deriving DecidableEq, Repr

end FileTree

/-- What a command can see of a file system. -/
structure FileTree where
  /-- The entries below the root. -/
  entries : List (FileTree.Location × FileTree.Entry) := []
  /-- The directory in which a command runs. -/
  workingDirectory : FileTree.Location := []
  /-- How far the files can be written, those that are not there yet included. The other files take
  everything. -/
  limits : List (FileTree.Location × FileTree.Limit) := []

namespace FileTree

/-! ### Entries -/

/-- What stands at a location. -/
def entry? (tree : FileTree) (location : Location) : Option Entry :=
  match location with
  | [] => some .directory
  | location => tree.entries.lookup location

/-- How far a file at a location can be written, if there is a limit. -/
def limit? (tree : FileTree) (location : Location) : Option Limit :=
  tree.limits.lookup location

/-- The tree with nothing at a location. -/
def erase (tree : FileTree) (location : Location) : FileTree :=
  { tree with entries := tree.entries.filter (·.1 ≠ location) }

/-- The tree with another entry at a location. -/
def insert (tree : FileTree) (location : Location) (entry : Entry) : FileTree :=
  { tree with entries := (location, entry) :: (tree.erase location).entries }

/-- The tree with directories on the way to a location. -/
def insertDirectories (tree : FileTree) : Location → FileTree
  | [] => tree
  | name :: outer =>
    let tree := tree.insertDirectories outer
    if (tree.entry? (name :: outer)).isSome then tree
    else tree.insert (name :: outer) .directory

/-! ### Paths -/

/-- The slash between the names of a path. -/
def slash : UInt8 := ofAscii '/'

/-- The names in a path. -/
def names (path : Bytes) : List Bytes :=
  (Bytes.splitOn slash path).filter (· ≠ [])

/-- Whether a path starts at the root. -/
def isAbsolute (path : Bytes) : Bool :=
  path.head? == some slash

/-- Whether a path has to lead to a directory, since it ends with a slash. -/
def endsWithSlash (path : Bytes) : Bool :=
  path.getLast? == some slash

/-- The location that a path names if links and dots are left aside. -/
def locate (tree : FileTree) (path : Bytes) : Location :=
  (names path).reverse ++ if isAbsolute path then [] else tree.workingDirectory

/-- The path of a location below the working directory. -/
def relativePath? (tree : FileTree) (location : Location) : Option Bytes :=
  let depth := tree.workingDirectory.length
  if depth < location.length ∧ location.drop (location.length - depth) = tree.workingDirectory then
    some (Bytes.join [slash] (location.take (location.length - depth)).reverse)
  else none

/-! ### Comparing trees -/

/-- The entries below the working directory, by their paths in lexical order. -/
def visible (tree : FileTree) : List (Bytes × Entry) :=
  let named := tree.entries.filterMap fun (location, entry) =>
    (tree.relativePath? location).map (·, entry)
  named.mergeSort fun a b => Bytes.le a.1 b.1

/-- The entries of a tree that another one does not have. -/
def changed (before after : FileTree) : List (Bytes × Entry) :=
  let old := before.visible
  after.visible.filter fun (path, entry) => old.lookup path ≠ some entry

/-- The paths at which a tree has entries and a later one has none. -/
def removed (before after : FileTree) : List Bytes :=
  let new := after.visible
  (before.visible.map (·.1)).filter fun path => (new.lookup path).isNone

end FileTree

end OnePass
