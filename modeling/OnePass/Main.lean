import OnePass.Command.Run

/-
**The program.**

The program takes a picture of the files that its command line names, runs the command on that
picture, and carries over what the command has changed.
-/

set_option relaxedAutoImplicit false
set_option autoImplicit false

namespace OnePass

/-- A text as a string of characters. -/
def shown (s : Bytes) : String :=
  String.ofList (Utf8.chars s)

/-- The location that names lead to, with dots taken literally. -/
def settleDots (names : List Bytes) : FileTree.Location :=
  names.foldl
    (fun location name =>
      if name = Bytes.ofString "." then location
      else if name = Bytes.ofString ".." then location.tail
      else name :: location)
    []

/-- The location that a path names, with dots taken literally. -/
def locationOf (tree : FileTree) (path : Bytes) : FileTree.Location :=
  settleDots (tree.locate path).reverse

/-- The path of a location. -/
def absolutePath (location : FileTree.Location) : String :=
  "/" ++ shown (Bytes.join [FileTree.slash] location.reverse)

/-- The devices of which a picture can be taken. Others are left out of it, so that an image is
written to them like to a new file. -/
def devices : List (String × FileTree.Entry) :=
  [("/dev/null", .nullDevice), ("/dev/full", .fullDevice)]

/-- Where a link that leads nowhere leads in the picture: to a name that no file can have. -/
def nowhere : Bytes :=
  [FileTree.slash, 0]

/-- What stands at a location, if it can be told. -/
def entryAt (location : FileTree.Location) : IO (Option FileTree.Entry) := do
  let path := (← IO.currentDir) / absolutePath location
  try
    match (← path.symlinkMetadata).type with
    | .dir => return some .directory
    | .file =>
      if location.getLast? = some (Bytes.ofString "proc") then return some .systemFile
      else return some (.file (← IO.FS.readBinFile path).toList)
    | .symlink =>
      let target ←
        try pure (Bytes.ofString (← IO.FS.realPath path).toString) catch _ => pure nowhere
      return some (.link target)
    | .other => return devices.lookup (absolutePath location)
  catch _ => return none

/-- The picture with what stands at a location, if there is a directory around it. -/
def takePicture (tree : FileTree) (location : FileTree.Location) : IO FileTree := do
  let outer := (← IO.currentDir) / absolutePath location.tail
  if ← outer.isDir then
    let tree := tree.insertDirectories location.tail
    match ← entryAt location with
    | some entry => return tree.insert location entry
    | none => return tree
  else return tree

/-- The picture with what stands at a path, and with what a link at the path leads to. -/
def takePictures (tree : FileTree) (path : Bytes) : IO FileTree := do
  let location := locationOf tree path
  let tree ← takePicture tree location
  match tree.entry? location with
  | some (.link target) =>
    if target = nowhere then return tree else takePicture tree (locationOf tree target)
  | _ => return tree

/-- The path by which a file of the picture is written: one that stands where a link leads nowhere
is written through this link. -/
def writingPath (before : FileTree) (location : FileTree.Location) : String :=
  let dangling := before.entries.find? (·.2 = .link nowhere)
  match dangling with
  | some (link, _) =>
    if location = FileTree.names nowhere then absolutePath link else absolutePath location
  | none => absolutePath location

/-- Carries over what differs between two pictures. -/
def carryOver (before after : FileTree) : IO Unit := do
  for (location, entry) in after.entries do
    if before.entry? location ≠ some entry then
      match entry with
      | .file content => IO.FS.writeBinFile (writingPath before location) ⟨content.toArray⟩
      | _ => pure ()
  for (location, _) in before.entries do
    if (after.entry? location).isNone then IO.FS.removeFile (absolutePath location)

/-- Runs the command on the real files. -/
def execute (arguments : List Bytes) : IO UInt32 := do
  let named :=
    match Options.parse arguments with
    | .ok options => (options.isaPath :: options.arguments).filter (· ≠ [])
    | .error _ => []
  let here := FileTree.names (Bytes.ofString (← IO.currentDir).toString)
  let empty : FileTree := { workingDirectory := here.reverse }
  let before ← named.foldlM takePictures (empty.insertDirectories empty.workingDirectory)
  let outcome := run before arguments
  try
    carryOver before outcome.tree
    (← IO.getStdout).write ⟨outcome.stdout.toArray⟩
    (← IO.getStderr).write ⟨outcome.stderr.toArray⟩
    return outcome.code.toUInt32
  catch error =>
    let cause : Fault := .plain (Bytes.ofString error.toString)
    let fault : Fault := .inputOutput (Bytes.ofString "write output file") [] (some cause)
    (← IO.getStderr).write ⟨fault.report.toArray⟩
    return fault.exitCode.toUInt32

end OnePass

/-- Runs the command. -/
def main (arguments : List String) : IO UInt32 :=
  OnePass.execute (arguments.map OnePass.Bytes.ofString)
