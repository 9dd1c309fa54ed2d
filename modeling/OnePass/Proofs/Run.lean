import OnePass.Command.Run
import OnePass.Proofs.Emission
import OnePass.Proofs.Files

/-
**The command assembles a file and writes its image.**

Between a source file and an image file stand a catalog, two paths, an assembly, a sink and a file
that is made before it is known whether there is anything to write.  If the source assembles and
there is room for the image, the file at the second path holds the image of the program, and the
command says so; if it does not assemble, the command says why, with an exit code that tells the
kind of the fault.

Main definitions:

* `OnePass.Fault.Diagnostic` — the exit code and the text that a fault of a source is told with;
* `OnePass.Fault.Unwritten` — the faults of an image for which there is no room.

Main results:

* `OnePass.assembleTraced_fst` — an assembly that is logged is the same assembly;
* `OnePass.writeImage_of_hasRoom`, `OnePass.writeImage_of_lt` — a file that is written holds the
  image, or its beginning if there is no room for the rest;
* `OnePass.run_refines_assemble` — **a run of the command is an assembly between files**.
-/

set_option relaxedAutoImplicit false
set_option autoImplicit false

namespace OnePass

open Bytes (ofString ofInt)

/-! ### What is told about a source -/

/-- **The exit code and the text that a fault of a source is told with.** -/
inductive Fault.Diagnostic : Fault → Nat → Bytes → Prop where
  /-- A token that is no mnemonic. -/
  | unknownCommand (line : Int) (token : Bytes) :
      Diagnostic (.unknownCommand line token) 3
        (ofString "Error [Line " ++ ofInt line ++ ofString "]: Unknown command '" ++ token ++
          ofString "'.\n")
  /-- An instruction without all of its operands. -/
  | unexpectedEnd (mnemonic : Bytes) (line missing : Int) :
      Diagnostic (.unexpectedEnd mnemonic line missing) 4
        (ofString "Error: End of file reached while expecting an argument for command '" ++
          mnemonic ++ ofString "'.\n")
  /-- A token that does not fit in a word. -/
  | invalidArgument (line : Int) (mnemonic token : Bytes) (width : Int) :
      Diagnostic (.invalidArgument line mnemonic token width) 5
        (ofString "Error [Line " ++ ofInt line ++ ofString "]: Invalid argument '" ++ token ++
          ofString "' for command '" ++ mnemonic ++ ofString "'.\nExpected an " ++ ofInt width ++
          ofString "-bit binary string.\n")

theorem Fault.diagnostic_unknownCommand (line : Int) (token : Bytes) :
    Diagnostic (.unknownCommand line token) (unknownCommand line token).exitCode
      (unknownCommand line token).report := by
  have hreport : (unknownCommand line token).report =
      reportLine [ofString "Error [Line ", ofInt line, ofString "]: Unknown command '", token,
        ofString "'."] := rfl
  have hend : ofString "'.\n" = ofString "'." ++ [Bytes.newline] := rfl
  have htold := Diagnostic.unknownCommand line token
  rw [hend] at htold
  change Diagnostic _ 3 _
  simpa [hreport, reportLine] using htold

theorem Fault.diagnostic_unexpectedEnd (mnemonic : Bytes) (line missing : Int) :
    Diagnostic (.unexpectedEnd mnemonic line missing) (unexpectedEnd mnemonic line missing).exitCode
      (unexpectedEnd mnemonic line missing).report := by
  have hreport : (unexpectedEnd mnemonic line missing).report =
      reportLine [ofString "Error: End of file reached while expecting an argument for command '",
        mnemonic, ofString "'."] := rfl
  have hend : ofString "'.\n" = ofString "'." ++ [Bytes.newline] := rfl
  have htold := Diagnostic.unexpectedEnd mnemonic line missing
  rw [hend] at htold
  change Diagnostic _ 4 _
  simpa [hreport, reportLine] using htold

theorem Fault.diagnostic_invalidArgument (line : Int) (mnemonic token : Bytes) (width : Int) :
    Diagnostic (.invalidArgument line mnemonic token width)
      (invalidArgument line mnemonic token width).exitCode
      (invalidArgument line mnemonic token width).report := by
  have hreport : (invalidArgument line mnemonic token width).report =
      reportLine [ofString "Error [Line ", ofInt line, ofString "]: Invalid argument '", token,
          ofString "' for command '", mnemonic, ofString "'."] ++
        reportLine [ofString "Expected an ", ofInt width, ofString "-bit binary string."] := rfl
  have hmiddle : ofString "'.\nExpected an " =
      ofString "'." ++ Bytes.newline :: ofString "Expected an " := rfl
  have hend : ofString "-bit binary string.\n" =
      ofString "-bit binary string." ++ [Bytes.newline] := rfl
  have htold := Diagnostic.invalidArgument line mnemonic token width
  rw [hmiddle, hend] at htold
  change Diagnostic _ 5 _
  simpa [hreport, reportLine] using htold

/-- The fault of a source that is used up is told with its exit code and its report. -/
theorem diagnostic_of_assemble {catalog : Catalog} {source : LineSource} {fault : Fault}
    (heof : source.ending.isEndOfInput = true)
    (h : (assemble catalog source).result = .error fault) :
    fault.Diagnostic fault.exitCode fault.report := by
  rw [assemble_eq_assembleFrom] at h
  rcases fault_of_result_assembleFrom heof h with
    ⟨line, token, rfl⟩ | ⟨mnemonic, line, missing, rfl⟩ | ⟨line, mnemonic, token, width, rfl⟩
  · exact Fault.diagnostic_unknownCommand line token
  · exact Fault.diagnostic_unexpectedEnd mnemonic line missing
  · exact Fault.diagnostic_invalidArgument line mnemonic token width

/-! ### What is logged -/

theorem Log.write_eq_nil {minimum : Log.Level} {entries : List Log.Entry}
    (h : ∀ entry ∈ entries, entry.level < minimum) : Log.write minimum entries = [] := by
  have hnone : entries.filter (minimum ≤ ·.level) = [] := by
    rw [List.filter_eq_nil_iff]
    intro entry hentry
    simpa using h entry hentry
  rw [Log.write, hnone, List.flatMap_nil]

theorem Log.debug_lt_info : Log.debug < Log.info := by decide

/-- What a tracer logs is below what is shown without being asked for. -/
theorem level_of_mem_assembleTraced {catalog : Catalog} {attached : Bool} {source : LineSource} :
    ∀ entry ∈ (assembleTraced catalog attached source).2, entry.level < Log.info := by
  intro entry hentry
  obtain ⟨call, -, rfl⟩ := List.mem_map.1 hentry
  have hlevel : call.event.entry.level = Log.trace := by cases call.event <;> rfl
  rw [hlevel]
  decide

/-- **An assembly that is logged is the same assembly.** -/
theorem assembleTraced_fst (catalog : Catalog) (attached : Bool) (source : LineSource) :
    (assembleTraced catalog attached source).1 = assemble catalog source := by
  unfold assembleTraced Assembler.run assembleWatched
  rw [assemble_eq_assembleFrom]
  exact assembleLines_fst _ [] source.ending _ 0 source.lines

/-- Nothing has been logged that is shown without being asked for. -/
def Progress.IsQuiet (progress : Progress) : Prop :=
  ∀ entry ∈ progress.log, entry.level < Log.info

/-- Without being asked for more, the command tells about a fault and nothing else. -/
theorem Progress.IsQuiet.stderr_outcome {progress : Progress} (h : progress.IsQuiet)
    {options : Options} (hverbose : options.verbose = false) :
    (progress.outcome options).stderr = (progress.fault.map Fault.report).getD [] := by
  simp [Progress.outcome, hverbose, Log.write_eq_nil h]

/-! ### Writing the image -/

section

variable {options : Options} {catalog : Catalog} {program : Program} {fault : Fault}
  {source target : FileTree.Location} {input output : Bytes} {tree : FileTree}
  {progress : Progress}

/-- The text of an image file of the command. -/
def imageText (catalog : Catalog) (program : Program) : Bytes :=
  Bytes.unlines (Emitter.image { wordSize := catalog.wordSize } program)

/-- What takes the bytes for an open file has got none of them yet. -/
theorem receiverAt_eq (tree : FileTree) (location : FileTree.Location) (path : Bytes) :
    receiverAt tree location path =
      { limit := (tree.room location).map (·.room)
        fault := (receiverAt tree location path).fault } := by
  unfold receiverAt
  split
  · next hroom => rw [hroom]; rfl
  · next hroom => rw [hroom]; rfl

/-- **A file that is written holds the image**, if there is room for it. -/
theorem writeImage_of_hasRoom {old : Bytes}
    (hentry : progress.tree.entry? target = some (.file old))
    (hroom : progress.tree.HasRoom target (imageText catalog program).length) :
    writeImage options catalog program target output progress =
      { progress with
        tree := progress.tree.insert target (.file (imageText catalog program))
        stdout := success output ⟨program.size, (memoryWords - program.size : Nat)⟩
          ++ if options.listing then
              Listing.render program ⟨program.size, (memoryWords - program.size : Nat)⟩
            else [] } := by
  have hfits : Fits ((progress.tree.room target).map (·.room))
      (imageText catalog program).length := by
    intro room hmem
    obtain ⟨limit, hlimit, rfl⟩ := Option.map_eq_some_iff.1 hmem
    rw [FileTree.room_of_file hentry] at hlimit
    exact hroom limit hlimit
  obtain ⟨writer, sink, hemit, hflush, hdelivered⟩ :=
    Emitter.emit_sink { wordSize := catalog.wordSize } program _
      (receiverAt progress.tree target output).fault hfits
  rw [← receiverAt_eq] at hemit
  simp only [writeImage, hemit, hflush, hdelivered, FileTree.store, hentry]
  rfl

/-- **The faults of an image for which there is no room**: it is noticed at one of the lines, or
behind the last one. -/
inductive Fault.Unwritten : Fault → Bytes → Fault → Prop where
  /-- A line is refused. -/
  | line (output : Bytes) (cause : Fault) :
      Unwritten (.inputOutput (ofString "write output") [] (some cause)) output cause
  /-- All lines are taken, and cannot be delivered. -/
  | flush (output : Bytes) (cause : Fault) :
      Unwritten (.inputOutput (ofString "write output file") output (some cause)) output cause

theorem Fault.Unwritten.exitCode_eq {cause : Fault} (h : fault.Unwritten output cause) :
    fault.exitCode = 2 := by
  cases h with
  | line => rfl
  | flush => rfl

/-- **A file that cannot be written further holds the beginning of the image.** -/
theorem writeImage_of_lt (options : Options) (output : Bytes) (progress : Progress) {old : Bytes}
    {limit : FileTree.Limit}
    (hentry : progress.tree.entry? target = some (.file old))
    (hlimit : progress.tree.limit? target = some limit)
    (hlt : limit.room < (imageText catalog program).length) :
    ∃ fault : Fault, fault.Unwritten output (limit.error.fault "write" output) ∧
      writeImage options catalog program target output progress =
        { progress with
          tree := progress.tree.insert target (.file ((imageText catalog program).take limit.room))
          fault := some fault } := by
  have hreceiver : receiverAt progress.tree target output =
      { limit := some limit.room, fault := limit.error.fault "write" output } := by
    simp only [receiverAt, FileTree.room_of_file hentry, hlimit]
  rcases Emitter.emit_of_lt { wordSize := catalog.wordSize } program
      (limit.error.fault "write" output) hlt with
    ⟨hfault, hdelivered⟩ | ⟨sink, hfault, hflush, hdelivered⟩
  · refine ⟨_, .line output _, ?_⟩
    simp only [writeImage, hreceiver, hfault, hdelivered, FileTree.store, hentry]
    rfl
  · refine ⟨_, .flush output _, ?_⟩
    simp only [writeImage, hreceiver, hfault, hflush, hdelivered, FileTree.store, hentry]
    rfl

/-! ### From one open file to another -/

/-- **A source that assembles** becomes an image at the target, if there is room for it. -/
theorem assembleOpen_of_ok (options : Options) (output : Bytes) {old : Bytes}
    (hentry : tree.entry? target = some (.file old))
    (h : (assemble catalog (sourceAt tree source input)).result = .ok program)
    (hroom : tree.HasRoom target (imageText catalog program).length) :
    let progress := assembleOpen options catalog source target input output tree
    progress.fault = none ∧
      progress.tree = tree.insert target (.file (imageText catalog program)) ∧
      (options.listing = false →
        progress.stdout = success output ⟨program.size, (memoryWords - program.size : Nat)⟩) := by
  have hassembly := assembleTraced_fst catalog options.verbose (sourceAt tree source input)
  rw [← hassembly] at h
  simp only [assembleOpen, h]
  rw [writeImage_of_hasRoom hentry hroom]
  refine ⟨rfl, rfl, ?_⟩
  intro hlisting
  simp [hlisting]

/-- **A source that assembles, without room for its image**, leaves the beginning of it and a fault,
and nothing is printed. -/
theorem assembleOpen_of_lt (options : Options) (output : Bytes) {old : Bytes}
    {limit : FileTree.Limit} (hentry : tree.entry? target = some (.file old))
    (h : (assemble catalog (sourceAt tree source input)).result = .ok program)
    (hlimit : tree.limit? target = some limit)
    (hlt : limit.room < (imageText catalog program).length) :
    let progress := assembleOpen options catalog source target input output tree
    (∃ fault : Fault, fault.Unwritten output (limit.error.fault "write" output) ∧
      progress.fault = some fault) ∧
      progress.stdout = [] ∧
      progress.tree = tree.insert target (.file ((imageText catalog program).take limit.room)) := by
  have hassembly := assembleTraced_fst catalog options.verbose (sourceAt tree source input)
  rw [← hassembly] at h
  simp only [assembleOpen, h]
  obtain ⟨fault, hfault, hprogress⟩ := writeImage_of_lt options output ⟨tree, [], _, none⟩
    hentry hlimit hlt
  rw [hprogress]
  exact ⟨⟨fault, hfault, rfl⟩, rfl, rfl⟩

/-- **A source that does not assemble** leaves its fault, and nothing is printed or written. -/
theorem assembleOpen_of_error (options : Options) (target : FileTree.Location) (output : Bytes)
    (h : (assemble catalog (sourceAt tree source input)).result = .error fault) :
    let progress := assembleOpen options catalog source target input output tree
    progress.fault = some fault ∧ progress.stdout = [] ∧ progress.tree = tree := by
  have hassembly := assembleTraced_fst catalog options.verbose (sourceAt tree source input)
  rw [← hassembly] at h
  simp [assembleOpen, h]

theorem log_writeImage :
    (writeImage options catalog program target output progress).log = progress.log := by
  unfold writeImage
  simp only
  split
  · rfl
  · split
    · rfl
    · rfl

theorem isQuiet_assembleOpen :
    (assembleOpen options catalog source target input output tree).IsQuiet := by
  have htrace : ∀ entry ∈ (assembleTraced catalog options.verbose (sourceAt tree source input)).2,
      entry.level < Log.info := level_of_mem_assembleTraced
  unfold assembleOpen Progress.IsQuiet
  simp only
  split
  · exact List.forall_mem_cons.2 ⟨Log.debug_lt_info, htrace⟩
  · rw [log_writeImage]
    exact List.forall_mem_cons.2 ⟨Log.debug_lt_info, htrace⟩

/-! ### Discarding the output -/

theorem stdout_discard : (discard output progress).stdout = progress.stdout := by
  unfold discard
  split
  · split <;> rfl
  · rfl

theorem fault_discard : (discard output progress).fault = progress.fault := by
  unfold discard
  split
  · split <;> rfl
  · rfl

theorem isQuiet_discard (h : progress.IsQuiet) : (discard output progress).IsQuiet := by
  unfold discard
  split
  · split
    · exact h
    · intro entry hentry
      rcases List.mem_append.1 hentry with hentry | hentry
      · exact h entry hentry
      · rw [List.mem_singleton.1 hentry]
        exact Log.debug_lt_info
  · exact h

/-! ### From one path to another -/

/-- The source is read as it was, even though the output has been made. -/
theorem sourceAt_insert {text : Bytes}
    (hinput : tree.resolve .read input = .ok (.found source (.file text))) (hne : source ≠ target)
    (entry : FileTree.Entry) :
    sourceAt (tree.insert target entry) source input = LineSource.ofText text := by
  have hentry : tree.entry? source = some (.file text) :=
    (FileTree.stands_of_resolve hinput).resolve_left (by simp)
  simp only [sourceAt, FileTree.content, FileTree.entry?_insert_of_ne hne, hentry]

/-- A run that comes to open its output assembles from one open file to another. -/
theorem assembleFile_eq (hcatalog : loadCatalog tree options.isaPath = .ok catalog)
    (hopen : tree.openRead input = .ok source) (houtput : tree.Creates output target) :
    assembleFile tree options input output =
      let progress := assembleOpen options catalog source target input output
        (tree.insert target (.file []))
      if progress.fault.isSome then discard output progress else progress := by
  simp only [assembleFile, hcatalog, hopen, houtput.create_eq]

/-- What can be read can be opened. -/
theorem openRead_of_resolve {entry : FileTree.Entry}
    (h : tree.resolve .read input = .ok (.found source entry)) :
    tree.openRead input = .ok source := by
  simp only [FileTree.openRead, h]

/-- A catalog is loaded from a file that holds its table. -/
theorem loadCatalog_of_load {path text : Bytes} (hpath : path ≠ [])
    (hresolve : tree.resolve .read path = .ok (.found source (.file text)))
    (hload : Catalog.load text = .ok catalog) : loadCatalog tree path = .ok catalog := by
  have hentry : tree.entry? source = some (.file text) :=
    (FileTree.stands_of_resolve hresolve).resolve_left (by simp)
  simp only [loadCatalog, if_neg hpath, openRead_of_resolve hresolve, FileTree.content, hentry,
    hload]

theorem isQuiet_assembleFile {entry : FileTree.Entry}
    (hcatalog : loadCatalog tree options.isaPath = .ok catalog)
    (hinput : tree.resolve .read input = .ok (.found source entry))
    (houtput : tree.Creates output target) :
    (assembleFile tree options input output).IsQuiet := by
  rw [assembleFile_eq hcatalog (openRead_of_resolve hinput) houtput]
  simp only
  split
  · exact isQuiet_discard isQuiet_assembleOpen
  · exact isQuiet_assembleOpen

section

variable {text : Bytes} (hcatalog : loadCatalog tree options.isaPath = .ok catalog)
  (hinput : tree.resolve .read input = .ok (.found source (.file text)))
  (houtput : tree.Creates output target) (hne : source ≠ target)

include hcatalog hinput houtput hne

/-- **A file that assembles** gives another one with its image, if there is room for it. -/
theorem assembleFile_of_ok (h : (assemble catalog (LineSource.ofText text)).result = .ok program)
    (hroom : tree.HasRoom target (imageText catalog program).length) :
    let progress := assembleFile tree options input output
    progress.fault = none ∧
      progress.tree = tree.insert target (.file (imageText catalog program)) ∧
      (options.listing = false →
        progress.stdout = success output ⟨program.size, (memoryWords - program.size : Nat)⟩) := by
  rw [← sourceAt_insert hinput hne (.file [])] at h
  have hentry := FileTree.entry?_insert_self tree (.file []) houtput.ne_nil
  obtain ⟨hfault, htree, hstdout⟩ := assembleOpen_of_ok options output hentry h
    (FileTree.hasRoom_insert.2 hroom)
  rw [assembleFile_eq hcatalog (openRead_of_resolve hinput) houtput]
  simp only [hfault, Option.isSome_none, Bool.false_eq_true, if_false, htree]
  exact ⟨trivial, FileTree.insert_insert _, hstdout⟩

/-- **A file that does not assemble** leaves its fault, and nothing is printed. -/
theorem assembleFile_of_error
    (h : (assemble catalog (LineSource.ofText text)).result = .error fault) :
    let progress := assembleFile tree options input output
    progress.fault = some fault ∧ progress.stdout = [] := by
  rw [← sourceAt_insert hinput hne (.file [])] at h
  obtain ⟨hfault, hstdout, -⟩ := assembleOpen_of_error options target output h
  rw [assembleFile_eq hcatalog (openRead_of_resolve hinput) houtput]
  simp only [hfault, Option.isSome_some, if_true, fault_discard, stdout_discard]
  exact ⟨trivial, hstdout⟩

end

end

/-! ### The whole command -/

theorem success_eq (output : Bytes) (n : Nat) (padding : Int) :
    success output ⟨n, padding⟩ =
      ofString "Compilation successful. " ++ Bytes.ofNat n ++
        ofString " lines of code generated.\nOutput written to '" ++ output ++ ofString "'\n" := by
  have hmiddle : ofString " lines of code generated.\nOutput written to '" =
      ofString " lines of code generated.\n" ++ ofString "Output written to '" := rfl
  rw [success, hmiddle, Bytes.ofInt_natCast]
  simp only [List.append_assoc]

/-- **A run of the command is an assembly between files.**  The command line names an input that is
a regular file, an output that can be opened for writing and is another file, and possibly a table
that can be loaded.  If the lines of the input assemble and there is room for the image, the exit
code is zero, the output holds the words of the program and then words of zeros up to 128 lines, and
nothing else has changed; what is printed tells the number of words and the name of the output.  If
they do not assemble, the exit code and the diagnostic are those of the fault, and nothing is
printed. -/
theorem run_refines_assemble {tree : FileTree} {arguments : List Bytes} {options : Options}
    {input output text : Bytes} {catalog : Catalog} {source target : FileTree.Location}
    (hparse : Options.parse arguments = .ok options) (hhelp : options.help = false)
    (harguments : options.arguments = [input, output])
    (hcatalog : loadCatalog tree options.isaPath = .ok catalog)
    (hinput : tree.resolve .read input = .ok (.found source (.file text)))
    (houtput : tree.Creates output target) (hne : source ≠ target) :
    let outcome := run tree arguments
    let result := (assemble catalog (LineSource.ofText text)).result
    (∀ program, result = .ok program →
      let zeros := List.replicate catalog.wordSize (Bytes.ofAscii '0')
      let image := (program.words ++ List.replicate (128 - program.size) zeros).flatMap
        (· ++ [Bytes.newline])
      tree.HasRoom target image.length →
      outcome.code = 0 ∧
      outcome.tree.resolve .read output = .ok (.found target (.file image)) ∧
      (∀ location, location ≠ target → outcome.tree.entry? location = tree.entry? location) ∧
      (options.listing = false → outcome.stdout =
        ofString "Compilation successful. " ++ Bytes.ofNat program.size ++
          ofString " lines of code generated.\nOutput written to '" ++ output ++
          ofString "'\n") ∧
      (options.verbose = false → outcome.stderr = [])) ∧
    ∀ fault, result = .error fault →
      outcome.code = fault.exitCode ∧ fault.Diagnostic outcome.code fault.report ∧
      outcome.stdout = [] ∧
      (options.verbose = false → outcome.stderr = fault.report) := by
  have hrun : run tree arguments = (assembleFile tree options input output).outcome options := by
    simp only [run, hparse, hhelp, harguments]
    rfl
  have hquiet := isQuiet_assembleFile hcatalog hinput houtput
  rw [hrun]
  intro outcome result
  refine ⟨?_, ?_⟩
  · intro program hprogram zeros image hroom
    obtain ⟨hfault, htree, hstdout⟩ :=
      assembleFile_of_ok hcatalog hinput houtput hne hprogram hroom
    have hcode : outcome.code = exitCode none := congrArg exitCode hfault
    have houtcome : outcome.tree = tree.insert target (.file image) := htree
    refine ⟨hcode, ?_, ?_, ?_, ?_⟩
    · rw [houtcome]
      exact houtput.resolve_read image
    · intro location hlocation
      rw [houtcome]
      exact FileTree.entry?_insert_of_ne hlocation
    · intro hlisting
      rw [← success_eq output program.size (memoryWords - program.size : Nat)]
      exact hstdout hlisting
    · intro hverbose
      rw [hquiet.stderr_outcome hverbose, hfault]
      rfl
  · intro fault herror
    obtain ⟨hfault, hstdout⟩ := assembleFile_of_error hcatalog hinput houtput hne herror
    have hcode : outcome.code = fault.exitCode := congrArg exitCode hfault
    have heof : (LineSource.ofText text).ending.isEndOfInput = true := by
      rw [LineSource.ending_ofText]
      rfl
    refine ⟨hcode, ?_, hstdout, ?_⟩
    · rw [hcode]
      exact diagnostic_of_assemble heof herror
    · intro hverbose
      rw [hquiet.stderr_outcome hverbose, hfault]
      rfl

/-- A table of four-bit words, a link to a name that is free, and just enough room for the image
there; and an instruction that lacks its operand. -/
theorem run_refines_assemble_link :
    let table := ofString
      "word_size: 4\ninstructions:\n- mnemonic: PUT\n  opcode: '0011'\n  args: 1\n"
    let tree (text : String) : FileTree :=
      { entries :=
          [([ofString "src"], .directory),
            ([ofString "in.asm", ofString "src"], .file (ofString text)),
            ([ofString "table"], .file table),
            ([ofString "out"], .link (ofString "src/../image"))]
        limits := [([ofString "image"], { room := 640 })] }
    let arguments := [ofString "src/in.asm", ofString "out", ofString "--isa", ofString "table"]
    let words := [ofString "0011", ofString "0010"] ++ List.replicate 126 (ofString "0000")
    let good := run (tree "PUT\n10\n") arguments
    let bad := run (tree "PUT\n") arguments
    good.code = 0 ∧
      good.tree.resolve .read (ofString "out") =
        .ok (.found [ofString "image"] (.file (words.flatMap (· ++ [Bytes.newline])))) ∧
      good.stdout = ofString "Compilation successful. 2 lines of code generated.\n" ++
        ofString "Output written to 'out'\n" ∧
      bad.code = 4 ∧ bad.stdout = [] ∧
      bad.stderr =
        ofString "Error: End of file reached while expecting an argument for command 'PUT'.\n" := by
  intro table tree arguments words good bad
  let catalog : Catalog := ⟨[], 4, [⟨ofString "PUT", ofString "0011", 1⟩]⟩
  let options : Options :=
    { arguments := [ofString "src/in.asm", ofString "out"], isaPath := ofString "table" }
  have hparse : Options.parse arguments = .ok options := by decide +kernel
  have hload : Catalog.load table = .ok catalog := by decide +kernel
  have hne : [ofString "in.asm", ofString "src"] ≠ [ofString "image"] := by decide
  have htable : ∀ text ∈ ["PUT\n10\n", "PUT\n"], (tree text).resolve .read (ofString "table") =
      .ok (.found [ofString "table"] (.file table)) := by decide +kernel
  have hinput : ∀ text ∈ ["PUT\n10\n", "PUT\n"], (tree text).resolve .read (ofString "src/in.asm") =
      .ok (.found [ofString "in.asm", ofString "src"] (.file (ofString text))) := by
    decide +kernel
  have hcreate : ∀ text ∈ ["PUT\n10\n", "PUT\n"], (tree text).resolve .create (ofString "out") =
      .ok (.free [ofString "image"]) := by decide +kernel
  have hlines : LineSource.ofText (ofString "PUT\n10\n") =
      ⟨[ofString "PUT", ofString "10"], .endOfInput⟩ :=
    LineSource.ofText_unlines (show ∀ line ∈ [ofString "PUT", ofString "10"], IsLine line by decide)
  have hlines' : LineSource.ofText (ofString "PUT\n") = ⟨[ofString "PUT"], .endOfInput⟩ :=
    LineSource.ofText_unlines (show ∀ line ∈ [ofString "PUT"], IsLine line by decide)
  let program := (assemble catalog ⟨[ofString "PUT", ofString "10"], .endOfInput⟩).program
  obtain ⟨hcode, hread, -, hstdout, -⟩ :=
    (run_refines_assemble hparse rfl rfl
      (loadCatalog_of_load (by decide) (htable "PUT\n10\n" (by simp)) hload)
      (hinput "PUT\n10\n" (by simp)) ⟨_, hcreate "PUT\n10\n" (by simp), Or.inl rfl⟩ hne).1
      program (by rw [hlines]; rfl) (by decide +kernel)
  obtain ⟨hcode', -, hstdout', hstderr'⟩ :=
    (run_refines_assemble hparse rfl rfl
      (loadCatalog_of_load (by decide) (htable "PUT\n" (by simp)) hload)
      (hinput "PUT\n" (by simp)) ⟨_, hcreate "PUT\n" (by simp), Or.inl rfl⟩ hne).2
      (.unexpectedEnd (ofString "PUT") 1 1) (by rw [hlines']; rfl)
  have hsize : program.size = 2 := rfl
  have hwords : program.words = [ofString "0011", ofString "0010"] := rfl
  rw [hsize, hwords] at hread
  refine ⟨hcode, hread, (hstdout rfl).trans ?_, hcode', hstdout', (hstderr' rfl).trans ?_⟩
  · decide +kernel
  · decide +kernel

end OnePass
