import OnePass.Files.Tree

/-
**Access to files by path.**

A path is followed name by name.  Links on the way are followed as well, but not more than forty of
them; whether the last name may be a link, or may be missing, depends on what is to be done there.

Main definitions:

* `OnePass.FileTree.stride` — follows names up to the first link;
* `OnePass.FileTree.walk` — follows names and links;
* `OnePass.FileTree.openRead`, `OnePass.FileTree.create`, `OnePass.FileTree.remove` — **the
  operations**;
* `OnePass.FileTree.content`, `OnePass.FileTree.store` — what is in an open file.
-/

set_option relaxedAutoImplicit false
set_option autoImplicit false

namespace OnePass.FileTree

open Bytes (ofString)

/-! ### Following a path -/

/-- What a path is followed for. -/
inductive Intent where
  /-- To open what is there. -/
  | read
  /-- To open what is there, or to make a new file. -/
  | create
  /-- To look at what is there, even if it is a link. -/
  | inspect
  deriving DecidableEq, Repr

/-- Where a path leads. -/
inductive Target where
  /-- To an entry. -/
  | found (location : Location) (entry : Entry)
  /-- To a name that is free in a directory. -/
  | free (location : Location)
  deriving DecidableEq, Repr

/-- The longest name. -/
def maxName : Nat := 255

/-- The longest path. -/
def maxPath : Nat := 4095

/-- The largest number of links on the way. -/
def maxLinks : Nat := 40

/-- Where the names of a path lead without following a link. -/
inductive Stop where
  /-- To the end of the path. -/
  | arrived (target : Target)
  /-- To a link: the names to follow instead, and from where on. -/
  | detour (here : Location) (asDirectory : Bool) (path : List Bytes)
  deriving DecidableEq, Repr

/-- Follows names from a directory on, up to the first link that has to be followed. With
`asDirectory` the last name has to be that of a directory. -/
def stride (tree : FileTree) (intent : Intent) (here : Location) (asDirectory : Bool) :
    List Bytes → Except Error Stop
  | [] => .ok (.arrived (.found here .directory))
  | name :: rest =>
    if name = ofString "." then stride tree intent here asDirectory rest
    else if name = ofString ".." then stride tree intent here.tail asDirectory rest
    else if intent = .create ∧ rest = [] ∧ asDirectory then .error .isDirectory
    else if maxName < name.length then .error .nameTooLong
    else
      match tree.entry? (name :: here) with
      | none => if rest = [] then .ok (.arrived (.free (name :: here))) else .error .notFound
      | some .directory => stride tree intent (name :: here) asDirectory rest
      | some (.link target) =>
        if intent = .inspect ∧ rest = [] ∧ ¬ asDirectory then
          .ok (.arrived (.found (name :: here) (.link target)))
        else
          .ok (.detour (if isAbsolute target then [] else here)
            (asDirectory || (rest.isEmpty && endsWithSlash target)) (names target ++ rest))
      | some entry =>
        if rest = [] ∧ ¬ asDirectory then .ok (.arrived (.found (name :: here) entry))
        else .error .notDirectory

/-- Follows names from a directory on, with `links` links to spare. -/
def walk (tree : FileTree) (intent : Intent) (links : Nat) (here : Location) (asDirectory : Bool)
    (path : List Bytes) : Except Error Target :=
  match tree.stride intent here asDirectory path with
  | .error error => .error error
  | .ok (.arrived target) => .ok target
  | .ok (.detour here asDirectory path) =>
    match links with
    | 0 => .error .tooManyLinks
    | links + 1 => tree.walk intent links here asDirectory path

/-- Follows a path. -/
def resolve (tree : FileTree) (intent : Intent) (path : Bytes) : Except Error Target :=
  if path.contains 0 then .error .invalidArgument
  else if path = [] then .error .notFound
  else if maxPath < path.length then .error .nameTooLong
  else
    walk tree intent maxLinks (if isAbsolute path then [] else tree.workingDirectory)
      (endsWithSlash path) (names path)

/-! ### Operations -/

/-- Opens what is at a path. A directory can be opened, too. -/
def openRead (tree : FileTree) (path : Bytes) : Except Error Location :=
  match tree.resolve .read path with
  | .error error => .error error
  | .ok (.free _) => .error .notFound
  | .ok (.found location _) => .ok location

/-- Opens a file for writing: a file that is there loses its content, and one that is not is made.
-/
def create (tree : FileTree) (path : Bytes) : Except Error (Location × FileTree) :=
  match tree.resolve .create path with
  | .error error => .error error
  | .ok (.free location) => .ok (location, tree.insert location (.file []))
  | .ok (.found _ .directory) => .error .isDirectory
  | .ok (.found location (.file _)) => .ok (location, tree.insert location (.file []))
  | .ok (.found location _) => .ok (location, tree)

/-- What is at a path, a link counting as itself. -/
def inspect? (tree : FileTree) (path : Bytes) : Option Entry :=
  match tree.resolve .inspect path with
  | .ok (.found _ entry) => some entry
  | _ => none

/-- Removes what is at a path, a link counting as itself. -/
def remove (tree : FileTree) (path : Bytes) : Except Error FileTree :=
  match tree.resolve .inspect path with
  | .error error => .error error
  | .ok (.free _) => .error .notFound
  | .ok (.found _ .systemFile) => .error .notPermitted
  | .ok (.found location _) => .ok (tree.erase location)

/-! ### Open files -/

/-- What can be read at a location. -/
def content (tree : FileTree) (location : Location) : Except Error Bytes :=
  match tree.entry? location with
  | some .directory => .error .isDirectory
  | some (.file content) => .ok content
  | _ => .ok []

/-- How far what has been opened at a location can be written, if there is a limit. -/
def room (tree : FileTree) (location : Location) : Option Limit :=
  match tree.entry? location with
  | some (.file _) => tree.limit? location
  | some .fullDevice => some { room := 0 }
  | _ => none

/-- Writes a file that has been opened at a location. Devices keep nothing. -/
def store (tree : FileTree) (location : Location) (content : Bytes) : FileTree :=
  match tree.entry? location with
  | some (.file _) => tree.insert location (.file content)
  | _ => tree

end OnePass.FileTree
