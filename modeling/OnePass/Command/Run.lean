import OnePass.Catalog.Load
import OnePass.Command.Flags
import OnePass.Command.Report
import OnePass.Files.Access
import OnePass.Image.Listing
import OnePass.Image.Sink
import OnePass.Tracer

/-
**The command.**

The command assembles a source file and writes the image to another file.  The output file is made
after the source has been opened and before it is read.  If anything goes wrong after that, the
output file is removed again, unless it is a link or a device.

Main definitions:

* `OnePass.Outcome` — what a run of the command leaves behind;
* `OnePass.loadCatalog` — the catalog that the command uses;
* `OnePass.run` — **a run of the command** on a file tree.
-/

set_option relaxedAutoImplicit false
set_option autoImplicit false

namespace OnePass

open Bytes (ofString ofInt)

/-- What a run of the command leaves behind. -/
structure Outcome where
  /-- The exit code. -/
  code : Nat
  /-- What is printed. -/
  stdout : Bytes := []
  /-- What is logged and what is said about a fault. -/
  stderr : Bytes := []
  /-- The files afterwards. -/
  tree : FileTree

/-! ### Catalogs -/

/-- The catalog in a file, or the built-in one if there is no path. -/
def loadCatalog (tree : FileTree) (path : Bytes) : Except Fault Catalog :=
  if path = [] then .ok Catalog.builtIn
  else
    match tree.openRead path with
    | .error error =>
      .error (.inputOutput (ofString "open instruction table") path (some (.plain error.message)))
    | .ok location =>
      match tree.content location with
      | .error error =>
        let problem : Yaml.Problem :=
          { text := ofString "input error: " ++ error.told "read" path }
        let error : Catalog.LoadError := .malformed problem
        .error (.invocation (path ++ ofString ": " ++ error.message))
      | .ok text =>
        match Catalog.load text with
        | .error error => .error (.invocation (path ++ ofString ": " ++ error.message))
        | .ok catalog => .ok catalog

/-! ### From one file to another -/

/-- How far the work has come. -/
structure Progress where
  /-- The files. -/
  tree : FileTree
  /-- What has been printed. -/
  stdout : Bytes := []
  /-- What has been logged. -/
  log : List Log.Entry := []
  /-- What has gone wrong. -/
  fault : Option Fault := none

/-- The lines of an open file. -/
def sourceAt (tree : FileTree) (location : FileTree.Location) (path : Bytes) : LineSource :=
  match tree.content location with
  | .ok text => LineSource.ofText text
  | .error error => ⟨[], error.fault "read" path⟩

/-- What takes the bytes for an open file. -/
def receiverAt (tree : FileTree) (location : FileTree.Location) (path : Bytes) : Receiver :=
  match tree.room location with
  | none => {}
  | some limit => { limit := some limit.room, fault := limit.error.fault "write" path }

/-- What is printed when all went well. -/
def success (output : Bytes) (summary : Summary) : Bytes :=
  ofString "Compilation successful. " ++ ofInt summary.words
    ++ ofString " lines of code generated.\n" ++ ofString "Output written to '" ++ output
    ++ ofString "'\n"

/-- Writes the image of a program to an open file. -/
def writeImage (options : Options) (catalog : Catalog) (program : Program)
    (target : FileTree.Location) (output : Bytes) (progress : Progress) : Progress :=
  let tree := progress.tree
  let receiver := receiverAt tree target output
  let emitter : Emitter := { wordSize := catalog.wordSize }
  let emission := emitter.emit ({ receiver := receiver } : LineSink) program
  match emission.fault with
  | some fault =>
    { progress with
      tree := tree.store target emission.writer.receiver.delivered.toList
      fault := some fault }
  | none =>
    let (fault, sink) := emission.writer.flush
    let tree := tree.store target sink.receiver.delivered.toList
    match fault with
    | some fault =>
      { progress with
        tree := tree
        fault := some (.inputOutput (ofString "write output file") output (some fault)) }
    | none =>
      { progress with
        tree := tree
        stdout := success output emission.summary
          ++ if options.listing then Listing.render program emission.summary else [] }

/-- Assembles an open source and writes its image to an open file. -/
def assembleOpen (options : Options) (catalog : Catalog) (source target : FileTree.Location)
    (input output : Bytes) (tree : FileTree) : Progress :=
  let (assembly, trace) := assembleTraced catalog options.verbose (sourceAt tree source input)
  let announcement : Log.Entry :=
    { level := Log.debug
      message := ofString "Assembling"
      values :=
        [("input", .text input), ("output", .text output), ("isa", .text catalog.name),
         ("instructions", .number catalog.size)] }
  let progress : Progress := { tree := tree, log := announcement :: trace }
  match assembly.result with
  | .error fault => { progress with fault := some fault }
  | .ok program => writeImage options catalog program target output progress

/-- Whether an entry is a regular file. -/
def isRegular : FileTree.Entry → Bool
  | .file _ | .systemFile => true
  | _ => false

/-- Removes an output file that is of no use; links and devices stay. -/
def discard (output : Bytes) (progress : Progress) : Progress :=
  if (progress.tree.inspect? output).any isRegular then
    match progress.tree.remove output with
    | .ok tree => { progress with tree := tree }
    | .error error =>
      let entry : Log.Entry :=
        { level := Log.debug
          message := ofString "Failed to remove output"
          values := [("path", .text output), ("err", .text (error.told "remove" output))] }
      { progress with log := progress.log ++ [entry] }
  else progress

/-- Assembles the file at one path and writes the image to another. -/
def assembleFile (tree : FileTree) (options : Options) (input output : Bytes) : Progress :=
  match loadCatalog tree options.isaPath with
  | .error fault => { tree := tree, fault := some fault }
  | .ok catalog =>
    match tree.openRead input with
    | .error error =>
      let cause := error.fault "open" input
      { tree := tree, fault := some (.inputOutput (ofString "open input file") input (some cause)) }
    | .ok source =>
      match tree.create output with
      | .error error =>
        let cause := error.fault "open" output
        { tree := tree
          fault := some (.inputOutput (ofString "open output file") output (some cause)) }
      | .ok (target, tree) =>
        let progress := assembleOpen options catalog source target input output tree
        if progress.fault.isSome then discard output progress else progress

/-! ### The whole command -/

/-- The explanation of the command. -/
def helpText : Bytes :=
  ofString "asm8 translates an assembly source into a binary memory image. Every
non-blank line of the source is either a mnemonic or, when the previous
mnemonic still needs operands, a binary literal of up to 8 bits. Text after
';' is a comment. The image holds one 8-bit word per line and is padded with
zero words to 128 lines.

Usage:
  asm8 <input_file.asm> <output_file.bin> [flags]

Flags:
  -h, --help         help for asm8
      --isa string   load the instruction table from a YAML file
      --listing      print a listing of the emitted words
  -v, --verbose      log every emitted word
"

/-- The outcome of work that has come to its end. -/
def Progress.outcome (options : Options) (progress : Progress) : Outcome :=
  let level := if options.verbose then Log.trace else Log.info
  { code := exitCode progress.fault
    stdout := progress.stdout
    stderr := Log.write level progress.log ++ (progress.fault.map Fault.report).getD []
    tree := progress.tree }

/-- The outcome of a command line that cannot be followed. -/
def misuse (tree : FileTree) (reason : Bytes) : Outcome :=
  let fault : Fault := .invocation reason
  { code := fault.exitCode, stderr := fault.report, tree := tree }

/-- **A run of the command** on a file tree. -/
def run (tree : FileTree) (arguments : List Bytes) : Outcome :=
  match Options.parse arguments with
  | .error reason => misuse tree reason
  | .ok options =>
    if options.help then { code := 0, stdout := helpText, tree := tree }
    else
      match options.arguments with
      | [input, output] => (assembleFile tree options input output).outcome options
      | others =>
        misuse tree
          (ofString "expected 2 arguments, got " ++ Bytes.ofNat others.length)

end OnePass
