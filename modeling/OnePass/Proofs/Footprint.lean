import OnePass.Proofs.FaultTree
import OnePass.Proofs.Run

/-
**What a run touches.**

A run of the command changes one file at most, the one that its output leads to, and it does so only
if it comes to open the output: a run that has no catalog, or cannot open its files, leaves
everything as it is.  From then on there are three ways to end.  If the source assembles and there
is room for its image, the file holds the image.  If there is no room, the file holds the beginning
of the image, and if the source does not assemble, it holds nothing; in both cases the run fails and
withdraws the file: one that the output names is removed, and one behind a link stays, together with
the link.

The output is emptied before the source is read.  So a run keeps its source exactly if it does not
open it as its output; if it does, there is nothing to read, and what is written is the image of an
empty program.

Main definitions:

* `OnePass.OpensOutput` — **a run that comes to open its output**;
* `OnePass.Ending` — **the three ways to end** of a run that does.

Main results:

* `OnePass.assembleFile_of_not_opensOutput` — a run that does not come so far;
* `OnePass.OpensOutput.exists_ending` — a run that does ends in one of the three ways;
* `OnePass.OpensOutput.differsAt` — it changes one file at most;
* `OnePass.tree_of_failed_run` — **what a failed run leaves**;
* `OnePass.input_of_run` — **what becomes of the input**.
-/

set_option relaxedAutoImplicit false
set_option autoImplicit false

namespace OnePass

open Bytes (ofString)

/-- **A run that comes to open its output**: there is a catalog, the input can be opened, and so can
the output for writing, at the location `target`. -/
structure OpensOutput (tree : FileTree) (options : Options) (input output : Bytes)
    (catalog : Catalog) (source target : FileTree.Location) : Prop where
  /-- The catalog is the built-in one, or its table can be loaded. -/
  catalog_eq : loadCatalog tree options.isaPath = .ok catalog
  /-- Something is at the path of the input. -/
  source_eq : tree.openRead input = .ok source
  /-- A file can be at the path of the output. -/
  creates : tree.Creates output target

section

variable {tree : FileTree} {options : Options} {input output : Bytes} {catalog : Catalog}
  {source target : FileTree.Location}

/-! ### Runs that do not open their output -/

/-- **A run that does not come to open its output** leaves everything as it is, and fails. -/
theorem assembleFile_of_not_opensOutput (hordinary : tree.IsOrdinary)
    (h : ∀ catalog source target, ¬ OpensOutput tree options input output catalog source target) :
    let progress := assembleFile tree options input output
    progress.tree = tree ∧ progress.stdout = [] ∧ progress.fault ≠ none := by
  unfold assembleFile
  split
  · exact ⟨rfl, rfl, by simp⟩
  · next catalog hcatalog =>
    split
    · exact ⟨rfl, rfl, by simp⟩
    · next source hsource =>
      split
      · exact ⟨rfl, rfl, by simp⟩
      · next target opened hcreate =>
        exact absurd ⟨hcatalog, hsource, hordinary.creates hcreate⟩ (h catalog source target)

/-! ### Withdrawing the output -/

theorem discard_of_link {progress : Progress} {link : Bytes}
    (h : progress.tree.inspect? output = some (.link link)) :
    discard output progress = progress := by
  simp [discard, h, isRegular]

theorem tree_discard_of_file {progress : Progress} {content : Bytes}
    (h : progress.tree.resolve .inspect output = .ok (.found target (.file content))) :
    (discard output progress).tree = progress.tree.erase target := by
  have hinspect : progress.tree.inspect? output = some (.file content) := by
    rw [FileTree.inspect?, h]
  have hremove : progress.tree.remove output = .ok (progress.tree.erase target) := by
    rw [FileTree.remove, h]
  simp [discard, hinspect, isRegular, hremove]

/-- **The three ways to end of a run that has opened its output**, with a fault or without, and with
what in the file before it may be withdrawn; `result` is what has become of the source. -/
inductive Ending (tree : FileTree) (catalog : Catalog) (output : Bytes)
    (target : FileTree.Location) (result : Except Fault Program) : Option Fault → Bytes → Prop where
  /-- The image is written. -/
  | written {program : Program} (hresult : result = .ok program)
      (hroom : tree.HasRoom target (imageText catalog program).length) :
      Ending tree catalog output target result none (imageText catalog program)
  /-- The image cannot be written to its end. -/
  | unwritten {program : Program} {limit : FileTree.Limit} {fault : Fault}
      (hresult : result = .ok program) (hlimit : tree.limit? target = some limit)
      (hlt : limit.room < (imageText catalog program).length)
      (hfault : fault.Unwritten output (limit.error.fault "write" output)) :
      Ending tree catalog output target result (some fault)
        ((imageText catalog program).take limit.room)
  /-- There is no image. -/
  | unassembled {fault : Fault} (hresult : result = .error fault) :
      Ending tree catalog output target result (some fault) []

namespace Ending

variable {result : Except Fault Program} {program : Program} {cause : Fault}
  {limit : FileTree.Limit} {fault : Option Fault} {content : Bytes}

theorem of_hasRoom (h : Ending tree catalog output target result fault content)
    (hresult : result = .ok program)
    (hroom : tree.HasRoom target (imageText catalog program).length) :
    fault = none ∧ content = imageText catalog program := by
  cases h with
  | written hresult' _ =>
      cases hresult.symm.trans hresult'
      exact ⟨rfl, rfl⟩
  | unwritten hresult' hlimit hlt _ =>
      cases hresult.symm.trans hresult'
      exact absurd (hroom _ hlimit) (Nat.not_le.2 hlt)
  | unassembled hresult' => cases hresult.symm.trans hresult'

theorem of_lt (h : Ending tree catalog output target result fault content)
    (hresult : result = .ok program) (hlimit : tree.limit? target = some limit)
    (hlt : limit.room < (imageText catalog program).length) :
    exitCode fault = 2 ∧ content = (imageText catalog program).take limit.room := by
  cases h with
  | written hresult' hroom =>
      cases hresult.symm.trans hresult'
      exact absurd (hroom _ hlimit) (Nat.not_le.2 hlt)
  | unwritten hresult' hlimit' _ hfault =>
      cases hresult.symm.trans hresult'
      cases hlimit.symm.trans hlimit'
      exact ⟨hfault.exitCode_eq, rfl⟩
  | unassembled hresult' => cases hresult.symm.trans hresult'

theorem of_error (h : Ending tree catalog output target result fault content)
    (hresult : result = .error cause) : fault = some cause ∧ content = [] := by
  cases h with
  | written hresult' _ => cases hresult.symm.trans hresult'
  | unwritten hresult' _ _ _ => cases hresult.symm.trans hresult'
  | unassembled hresult' =>
      cases hresult.symm.trans hresult'
      exact ⟨rfl, rfl⟩

/-- **Nothing goes wrong exactly if there is an image, and room for it.** -/
theorem eq_none_iff (h : Ending tree catalog output target result fault content) :
    fault = none ↔ ∃ program, result = .ok program ∧
      tree.HasRoom target (imageText catalog program).length := by
  constructor
  · rintro rfl
    cases h with
    | written hresult hroom => exact ⟨_, hresult, hroom⟩
  · rintro ⟨program, hresult, hroom⟩
    exact (h.of_hasRoom hresult hroom).1

end Ending

namespace OpensOutput

/-- What is left if the output, with whatever it holds, is given up. -/
theorem tree_discard (h : OpensOutput tree options input output catalog source target)
    {progress : Progress} {content : Bytes}
    (hprogress : progress.tree = tree.insert target (.file content)) :
    (∀ link, tree.inspect? output = some (.link link) →
      (discard output progress).tree = tree.insert target (.file content)) ∧
    ((∀ link, tree.inspect? output ≠ some (.link link)) →
      (discard output progress).tree = tree.erase target) := by
  have hdiffers : FileTree.DiffersAt target tree (tree.insert target (.file content)) :=
    .insert h.creates.takesFile content
  constructor
  · intro link hlink
    have hlink' : progress.tree.inspect? output = some (.link link) := by
      rw [hprogress]
      exact hdiffers.inspect?_link hlink
    rw [discard_of_link hlink', hprogress]
  · intro hlink
    -- The output is no link behind the writing either, so an inspection finds the file.
    have hlink' : ∀ link,
        (tree.insert target (.file content)).inspect? output ≠ some (.link link) :=
      fun link heq => hlink link (hdiffers.symm.inspect?_link heq)
    have hresolve := h.creates.resolve_inspect hdiffers hlink'
    rw [FileTree.targetAt_of_some (FileTree.entry?_insert_self tree _ h.creates.ne_nil),
      ← hprogress] at hresolve
    rw [tree_discard_of_file hresolve, hprogress, FileTree.erase_insert]

/-- Between the opening and the end the output holds an image, the beginning of one, or nothing. -/
theorem exists_ending_assembleOpen
    (h : OpensOutput tree options input output catalog source target) :
    let opened := tree.insert target (.file [])
    let result := (assemble catalog (sourceAt opened source input)).result
    let progress := assembleOpen options catalog source target input output opened
    ∃ content, Ending tree catalog output target result progress.fault content ∧
      progress.tree = tree.insert target (.file content) ∧
      (progress.fault ≠ none → progress.stdout = []) := by
  intro opened result progress
  have hentry := FileTree.entry?_insert_self tree (.file []) h.creates.ne_nil
  cases hresult : (assemble catalog (sourceAt opened source input)).result with
  | ok program =>
      by_cases hroom : tree.HasRoom target (imageText catalog program).length
      · obtain ⟨hfault, htree, -⟩ := assembleOpen_of_ok options output hentry hresult
          (FileTree.hasRoom_insert.2 hroom)
        rw [FileTree.insert_insert] at htree
        refine ⟨_, ?_, htree, fun hne => absurd hfault hne⟩
        rw [hfault]
        exact .written hresult hroom
      · obtain ⟨limit, hlimit, hlt⟩ := FileTree.not_hasRoom_iff.1 hroom
        obtain ⟨⟨fault, hunwritten, hfault⟩, hstdout, htree⟩ :=
          assembleOpen_of_lt options output hentry hresult hlimit hlt
        rw [FileTree.insert_insert] at htree
        refine ⟨_, ?_, htree, fun _ => hstdout⟩
        rw [hfault]
        exact .unwritten hresult hlimit hlt hunwritten
  | error fault =>
      obtain ⟨hfault, hstdout, htree⟩ := assembleOpen_of_error options target output hresult
      refine ⟨[], ?_, htree, fun _ => hstdout⟩
      rw [hfault]
      exact .unassembled hresult

/-- **A run that has opened its output ends in one of the three ways.**  If it fails, nothing is
printed, and the file is removed unless the output is a link. -/
theorem exists_ending (h : OpensOutput tree options input output catalog source target) :
    let opened := tree.insert target (.file [])
    let result := (assemble catalog (sourceAt opened source input)).result
    let progress := assembleFile tree options input output
    ∃ content, Ending tree catalog output target result progress.fault content ∧
      (progress.fault = none → progress.tree = tree.insert target (.file content)) ∧
      (progress.fault ≠ none → progress.stdout = [] ∧
        (∀ link, tree.inspect? output = some (.link link) →
          progress.tree = tree.insert target (.file content)) ∧
        ((∀ link, tree.inspect? output ≠ some (.link link)) →
          progress.tree = tree.erase target)) := by
  intro opened result progress
  obtain ⟨content, hending, htree, hstdout⟩ := h.exists_ending_assembleOpen
  have hopen := assembleFile_eq h.catalog_eq h.source_eq h.creates
  by_cases hfault :
      (assembleOpen options catalog source target input output opened).fault = none
  · have hprogress : progress = assembleOpen options catalog source target input output opened :=
      hopen.trans (if_neg fun hsome => Option.isSome_iff_ne_none.1 hsome hfault)
    rw [hprogress]
    exact ⟨content, hending, fun _ => htree, fun hne => absurd hfault hne⟩
  · have hprogress : progress =
        discard output (assembleOpen options catalog source target input output opened) :=
      hopen.trans (if_pos (Option.isSome_iff_ne_none.2 hfault))
    rw [hprogress, fault_discard, stdout_discard]
    exact ⟨content, hending, fun hnone => absurd hnone hfault,
      fun _ => ⟨hstdout hfault, h.tree_discard htree⟩⟩

/-- **A run that opens its output changes one file at most.** -/
theorem differsAt (h : OpensOutput tree options input output catalog source target) :
    FileTree.DiffersAt target tree (assembleFile tree options input output).tree := by
  obtain ⟨content, -, hsuccess, hfailure⟩ := h.exists_ending
  have hwritten : FileTree.DiffersAt target tree (tree.insert target (.file content)) :=
    .insert h.creates.takesFile content
  by_cases hfault : (assembleFile tree options input output).fault = none
  · rw [hsuccess hfault]
    exact hwritten
  · obtain ⟨-, hlink, hfile⟩ := hfailure hfault
    by_cases hnamed : ∃ link, tree.inspect? output = some (.link link)
    · obtain ⟨link, hnamed⟩ := hnamed
      rw [hlink link hnamed]
      exact hwritten
    · rw [hfile fun link heq => hnamed ⟨link, heq⟩]
      exact .erase h.creates.takesFile

/-- **A run that opens its source as its output** has nothing to read. -/
theorem result_of_source (h : OpensOutput tree options input output catalog source source) :
    (assemble catalog (sourceAt (tree.insert source (.file [])) source input)).result = .ok {} := by
  have hentry := FileTree.entry?_insert_self tree (.file []) h.creates.ne_nil
  have hsource : sourceAt (tree.insert source (.file [])) source input = ⟨[], .endOfInput⟩ := by
    simp only [sourceAt, FileTree.content, hentry]
    exact LineSource.ofText_unlines (show ∀ line ∈ [], IsLine line by simp)
  rw [hsource]
  rfl

/-- If there is room for the image of an empty program, that is what becomes of the source. -/
theorem assembleFile_of_source (h : OpensOutput tree options input output catalog source source)
    (hroom : tree.HasRoom source (imageText catalog {}).length) :
    let progress := assembleFile tree options input output
    progress.fault = none ∧ progress.tree = tree.insert source (.file (imageText catalog {})) := by
  obtain ⟨content, hending, hsuccess, -⟩ := h.exists_ending
  obtain ⟨hfault, rfl⟩ := hending.of_hasRoom h.result_of_source hroom
  exact ⟨hfault, hsuccess hfault⟩

/-- That image is what is read at the path of the input then. -/
theorem resolve_of_source (h : OpensOutput tree options input output catalog source source)
    (hroom : tree.HasRoom source (imageText catalog {}).length) {text : Bytes}
    (hinput : tree.resolve .read input = .ok (.found source (.file text))) :
    (assembleFile tree options input output).tree.resolve .read input =
      .ok (.found source (.file (imageText catalog {}))) := by
  have hentry : (assembleFile tree options input output).tree.entry? source =
      some (.file (imageText catalog {})) := by
    rw [(h.assembleFile_of_source hroom).2]
    exact FileTree.entry?_insert_self tree _ h.creates.ne_nil
  rw [h.differsAt.resolve hinput (Or.inr (by simp)), FileTree.Target.within_found _ (by simp),
    FileTree.targetAt_of_some hentry]

/-- If there is no room for it, the run fails. -/
theorem exitCode_of_source (h : OpensOutput tree options input output catalog source source)
    (hroom : ¬ tree.HasRoom source (imageText catalog {}).length) :
    exitCode (assembleFile tree options input output).fault = 2 := by
  obtain ⟨content, hending, -⟩ := h.exists_ending
  obtain ⟨limit, hlimit, hlt⟩ := FileTree.not_hasRoom_iff.1 hroom
  exact (hending.of_lt h.result_of_source hlimit hlt).1

end OpensOutput

end

/-! ### The whole command -/

section

variable {tree : FileTree} {arguments : List Bytes} {options : Options} {input output : Bytes}

theorem run_eq_outcome (hparse : Options.parse arguments = .ok options)
    (hhelp : options.help = false) (harguments : options.arguments = [input, output]) :
    run tree arguments = (assembleFile tree options input output).outcome options := by
  simp only [run, hparse, hhelp, harguments]
  rfl

/-- A run succeeds exactly if it has come upon no fault. -/
theorem code_outcome_eq_zero_iff {progress : Progress} :
    (progress.outcome options).code = 0 ↔ progress.fault = none := by
  change exitCode progress.fault = 0 ↔ _
  cases progress.fault with
  | none => exact iff_of_true rfl rfl
  | some fault => exact iff_of_false fault.exitCode_ne_zero (by simp)

end

/-- **What a failed run leaves.**  A run that does not come to open its output fails, prints nothing
and leaves everything as it was.  A run that does, at the location `target`, succeeds exactly if the
source assembles and there is room for its whole image.  If it fails, be it at the source, at a line
of the image or when the last of them are delivered, nothing is printed; an output that is no link
is gone, and its name is free; an output that is a link is still the same link, and what it leads to
is an empty file, or the beginning of the image that there was room for; and nothing else has
changed. -/
theorem tree_of_failed_run {tree : FileTree} {arguments : List Bytes} {options : Options}
    {input output : Bytes} (hparse : Options.parse arguments = .ok options)
    (hhelp : options.help = false) (harguments : options.arguments = [input, output])
    (hordinary : tree.IsOrdinary) :
    let outcome := run tree arguments
    ((∀ catalog source target, ¬ OpensOutput tree options input output catalog source target) →
      outcome.code ≠ 0 ∧ outcome.stdout = [] ∧ outcome.tree = tree) ∧
    ∀ catalog source target, OpensOutput tree options input output catalog source target →
      let opened := tree.insert target (.file [])
      let result := (assemble catalog (sourceAt opened source input)).result
      let zeros := List.replicate catalog.wordSize (Bytes.ofAscii '0')
      let image (program : Program) :=
        (program.words ++ List.replicate (128 - program.size) zeros).flatMap (· ++ [Bytes.newline])
      (outcome.code = 0 ↔
        ∃ program, result = .ok program ∧ tree.HasRoom target (image program).length) ∧
      (outcome.code ≠ 0 →
        outcome.stdout = [] ∧
        (∀ fault, result = .error fault → outcome.code = fault.exitCode) ∧
        (∀ program, result = .ok program → outcome.code = 2) ∧
        ((∀ link, tree.inspect? output ≠ some (.link link)) →
          outcome.tree.resolve .inspect output = .ok (.free target)) ∧
        (∀ link, tree.inspect? output = some (.link link) →
          outcome.tree.inspect? output = some (.link link) ∧
          (∀ fault, result = .error fault → outcome.tree.entry? target = some (.file [])) ∧
          ∀ program limit, result = .ok program → tree.limit? target = some limit →
            outcome.tree.entry? target = some (.file ((image program).take limit.room))) ∧
        ∀ location, location ≠ target → outcome.tree.entry? location = tree.entry? location) := by
  rw [run_eq_outcome hparse hhelp harguments]
  intro outcome
  refine ⟨?_, ?_⟩
  · intro hopens
    obtain ⟨htree, hstdout, hfault⟩ := assembleFile_of_not_opensOutput hordinary hopens
    exact ⟨fun hcode => hfault (code_outcome_eq_zero_iff.1 hcode), hstdout, htree⟩
  · intro catalog source target hopens opened result zeros image
    obtain ⟨content, hending, -, hfailure⟩ := hopens.exists_ending
    have hdiffers : FileTree.DiffersAt target tree outcome.tree := hopens.differsAt
    have hsuccess : outcome.code = 0 ↔
        ∃ program, result = .ok program ∧ tree.HasRoom target (image program).length :=
      code_outcome_eq_zero_iff.trans hending.eq_none_iff
    refine ⟨hsuccess, ?_⟩
    intro hcode
    obtain ⟨hstdout, hlink, hfile⟩ :=
      hfailure fun hfault => hcode (code_outcome_eq_zero_iff.2 hfault)
    -- An image that is there and has not been written has a limit in its way.
    have hunwritten : ∀ program, result = .ok program → ∃ limit,
        tree.limit? target = some limit ∧ outcome.code = 2 ∧
          content = (image program).take limit.room := by
      intro program hresult
      have hroom : ¬ tree.HasRoom target (image program).length :=
        fun hroom => hcode (hsuccess.2 ⟨program, hresult, hroom⟩)
      obtain ⟨limit, hlimit, hlt⟩ := FileTree.not_hasRoom_iff.1 hroom
      exact ⟨limit, hlimit, hending.of_lt hresult hlimit hlt⟩
    refine ⟨hstdout, ?_, ?_, ?_, ?_, hdiffers.entry?_of_ne⟩
    · intro fault hresult
      exact congrArg exitCode (hending.of_error hresult).1
    · intro program hresult
      obtain ⟨-, -, hcode, -⟩ := hunwritten program hresult
      exact hcode
    · intro hnamed
      -- The name is free for whoever opens the file, and nobody who inspects it stops at a link.
      have htree : outcome.tree = tree.erase target := hfile hnamed
      have hnone : outcome.tree.entry? target = none := by
        rw [htree]
        exact FileTree.entry?_erase_self _ hopens.creates.ne_nil
      rw [← FileTree.targetAt_of_none hnone]
      exact hopens.creates.resolve_inspect hdiffers
        fun link heq => hnamed link (hdiffers.symm.inspect?_link heq)
    · intro link hnamed
      have htree : outcome.tree = tree.insert target (.file content) := hlink link hnamed
      have hentry : outcome.tree.entry? target = some (.file content) := by
        rw [htree]
        exact FileTree.entry?_insert_self tree _ hopens.creates.ne_nil
      refine ⟨hdiffers.inspect?_link hnamed, ?_, ?_⟩
      · intro fault hresult
        rw [hentry, (hending.of_error hresult).2]
      · intro program limit hresult hlimit
        obtain ⟨limit', hlimit', -, hcontent⟩ := hunwritten program hresult
        cases hlimit.symm.trans hlimit'
        rw [hentry, hcontent]

/-- An old image that the output names, or that it leads to as a link, with room for a hundred
bytes.  An operand is no literal; an image of eight-bit words fits in the buffer and cannot be
delivered at the end; and one of forty-bit words, from a table, does not even fit in the buffer. -/
theorem tree_of_failed_run_old_image :
    let one := List.replicate 39 (Bytes.ofAscii '0') ++ ofString "1"
    let table := ofString "word_size: 40\ninstructions:\n- mnemonic: INC\n  opcode: '" ++ one ++
      ofString "'\n  args: 1\n"
    let tree (text : String) : FileTree :=
      { entries :=
          [([ofString "in.asm"], .file (ofString text)),
            ([ofString "table"], .file table),
            ([ofString "old"], .file (ofString "00000001\n")),
            ([ofString "out"], .link (ofString "old"))]
        limits := [([ofString "old"], { room := 100, error := .fileTooLarge })] }
    let bad := run (tree "INC\n2\n") [ofString "in.asm", ofString "out"]
    let named := run (tree "INC\n1\n") [ofString "in.asm", ofString "old"]
    let linked := run (tree "INC\n1\n")
      [ofString "in.asm", ofString "out", ofString "--isa", ofString "table"]
    bad.code = 5 ∧ bad.stdout = [] ∧
      bad.tree.inspect? (ofString "out") = some (.link (ofString "old")) ∧
      bad.tree.entry? [ofString "old"] = some (.file []) ∧
      named.code = 2 ∧ named.stdout = [] ∧
      named.tree.resolve .inspect (ofString "old") = .ok (.free [ofString "old"]) ∧
      linked.code = 2 ∧ linked.stdout = [] ∧
      linked.tree.inspect? (ofString "out") = some (.link (ofString "old")) ∧
      linked.tree.entry? [ofString "old"] = some (.file
        (one ++ Bytes.newline :: one ++ Bytes.newline :: List.replicate 18 (Bytes.ofAscii '0'))) ∧
      linked.tree.entry? [ofString "in.asm"] = some (.file (ofString "INC\n1\n")) := by
  intro one table tree bad named linked
  let wide : Catalog := ⟨[], 40, [⟨ofString "INC", one, 1⟩]⟩
  let plain (output : String) : Options := { arguments := [ofString "in.asm", ofString output] }
  let custom : Options := { plain "out" with isaPath := ofString "table" }
  let texts := ["INC\n2\n", "INC\n1\n"]
  let outputs := ["old", "out"]
  have htwo : "INC\n2\n" ∈ texts := by simp [texts]
  have hone : "INC\n1\n" ∈ texts := by simp [texts]
  have hold : "old" ∈ outputs := by simp [outputs]
  have hout : "out" ∈ outputs := by simp [outputs]
  have hordinary : ∀ text ∈ texts, (tree text).IsOrdinary :=
    fun text htext => FileTree.isOrdinary_of_entries (by revert text; decide +kernel)
  have hparse : ∀ output ∈ outputs,
      Options.parse [ofString "in.asm", ofString output] = .ok (plain output) := by
    decide +kernel
  have hparse' : Options.parse
      [ofString "in.asm", ofString "out", ofString "--isa", ofString "table"] = .ok custom := by
    decide +kernel
  have hinput : ∀ text ∈ texts, (tree text).resolve .read (ofString "in.asm") =
      .ok (.found [ofString "in.asm"] (.file (ofString text))) := by decide +kernel
  have hcreate : ∀ text ∈ texts, ∀ output ∈ outputs,
      (tree text).resolve .create (ofString output) =
        .ok (.found [ofString "old"] (.file (ofString "00000001\n"))) := by decide +kernel
  have hopens : ∀ text ∈ texts, ∀ output ∈ outputs,
      ∀ options catalog, loadCatalog (tree text) options.isaPath = .ok catalog →
        OpensOutput (tree text) options (ofString "in.asm") (ofString output) catalog
          [ofString "in.asm"] [ofString "old"] :=
    fun text htext output houtput _ _ hcatalog =>
      ⟨hcatalog, openRead_of_resolve (hinput text htext), _, hcreate text htext output houtput,
        Or.inr ⟨_, rfl⟩⟩
  have htable : (tree "INC\n1\n").resolve .read (ofString "table") =
      .ok (.found [ofString "table"] (.file table)) := by decide +kernel
  have hwide : loadCatalog (tree "INC\n1\n") custom.isaPath = .ok wide :=
    loadCatalog_of_load (by decide) htable (by decide +kernel)
  -- What the sources assemble to.
  have hsource : ∀ text ∈ texts,
      sourceAt ((tree text).insert [ofString "old"] (.file [])) [ofString "in.asm"]
        (ofString "in.asm") = LineSource.ofText (ofString text) :=
    fun text htext => sourceAt_insert (hinput text htext) (by decide) _
  have hlines : LineSource.ofText (ofString "INC\n2\n") =
      ⟨[ofString "INC", ofString "2"], .endOfInput⟩ :=
    LineSource.ofText_unlines (show ∀ line ∈ [ofString "INC", ofString "2"], IsLine line by decide)
  have hlines' : LineSource.ofText (ofString "INC\n1\n") =
      ⟨[ofString "INC", ofString "1"], .endOfInput⟩ :=
    LineSource.ofText_unlines (show ∀ line ∈ [ofString "INC", ofString "1"], IsLine line by decide)
  -- The operand that is no literal.
  obtain ⟨-, hbad⟩ := tree_of_failed_run (hparse "out" hout) rfl rfl
    (hordinary "INC\n2\n" htwo)
  obtain ⟨hsuccess, hfailure⟩ :=
    hbad _ _ _ (hopens "INC\n2\n" htwo "out" hout _ Catalog.builtIn rfl)
  rw [hsource "INC\n2\n" htwo, hlines] at hsuccess hfailure
  have hne : bad.code ≠ 0 := by
    intro hzero
    obtain ⟨program, hresult, -⟩ := hsuccess.1 hzero
    cases hresult
  obtain ⟨hstdout, hcode, -, -, hlink, -⟩ := hfailure hne
  obtain ⟨hkept, hempty, -⟩ := hlink (ofString "old") (by decide +kernel)
  -- The image that cannot be delivered.
  obtain ⟨-, hnamed⟩ := tree_of_failed_run (hparse "old" hold) rfl rfl
    (hordinary "INC\n1\n" hone)
  obtain ⟨hsuccess', hfailure'⟩ :=
    hnamed _ _ _ (hopens "INC\n1\n" hone "old" hold _ Catalog.builtIn rfl)
  rw [hsource "INC\n1\n" hone, hlines'] at hsuccess' hfailure'
  have hne' : named.code ≠ 0 := by
    intro hzero
    obtain ⟨program, hresult, hroom⟩ := hsuccess'.1 hzero
    cases hresult
    revert hroom
    decide +kernel
  obtain ⟨hstdout', -, hcode', hgone, -, -⟩ := hfailure' hne'
  have hfile : (tree "INC\n1\n").inspect? (ofString "old") =
      some (.file (ofString "00000001\n")) := by decide +kernel
  -- The image that does not fit in the buffer.
  obtain ⟨-, hlinked⟩ := tree_of_failed_run hparse' rfl rfl (hordinary "INC\n1\n" hone)
  obtain ⟨hsuccess'', hfailure''⟩ :=
    hlinked _ _ _ (hopens "INC\n1\n" hone "out" hout _ wide hwide)
  rw [hsource "INC\n1\n" hone, hlines'] at hsuccess'' hfailure''
  have hne'' : linked.code ≠ 0 := by
    intro hzero
    obtain ⟨program, hresult, hroom⟩ := hsuccess''.1 hzero
    cases hresult
    revert hroom
    decide +kernel
  obtain ⟨hstdout'', -, hcode'', -, hlink'', hothers⟩ := hfailure'' hne''
  obtain ⟨hkept'', -, hcut⟩ := hlink'' (ofString "old") (by decide +kernel)
  refine ⟨hcode _ rfl, hstdout, hkept, hempty _ rfl, hcode' _ rfl, hstdout', hgone (by simp [hfile]),
    hcode'' _ rfl, hstdout'', hkept'', (hcut _ _ rfl rfl).trans ?_, hothers _ (by decide)⟩
  decide +kernel

/-- **What becomes of the input.**  A run keeps an input that is a regular file, whatever its exit
code is, unless it comes to open this very file as its output.  If it does, and there is room for
them, it succeeds and the file holds 128 words of zeros; without that room it fails. -/
theorem input_of_run {tree : FileTree} {arguments : List Bytes} {options : Options}
    {input output text : Bytes} {source : FileTree.Location}
    (hparse : Options.parse arguments = .ok options) (hhelp : options.help = false)
    (harguments : options.arguments = [input, output]) (hordinary : tree.IsOrdinary)
    (hinput : tree.resolve .read input = .ok (.found source (.file text))) :
    let outcome := run tree arguments
    ((∀ catalog, ¬ OpensOutput tree options input output catalog source source) →
      outcome.tree.resolve .read input = .ok (.found source (.file text))) ∧
    ∀ catalog, OpensOutput tree options input output catalog source source →
      let zeros := List.replicate catalog.wordSize (Bytes.ofAscii '0')
      let image := (List.replicate 128 zeros).flatMap (· ++ [Bytes.newline])
      (tree.HasRoom source image.length →
        outcome.code = 0 ∧
        outcome.tree.resolve .read input = .ok (.found source (.file image))) ∧
      (¬ tree.HasRoom source image.length → outcome.code = 2) := by
  rw [run_eq_outcome hparse hhelp harguments]
  intro outcome
  refine ⟨?_, ?_⟩
  · intro hkept
    by_cases hopens : ∃ catalog opened target,
        OpensOutput tree options input output catalog opened target
    · obtain ⟨catalog, opened, target, hopens⟩ := hopens
      obtain rfl : source = opened :=
        Except.ok.inj ((openRead_of_resolve hinput).symm.trans hopens.source_eq)
      -- The one file that changes is another one than the source.
      have hne : source ≠ target := by
        rintro rfl
        exact hkept catalog hopens
      exact hopens.differsAt.resolve_found hinput hne
    · simp only [not_exists] at hopens
      have htree : outcome.tree = tree := (assembleFile_of_not_opensOutput hordinary hopens).1
      rw [htree]
      exact hinput
  · intro catalog hopens zeros image
    refine ⟨?_, hopens.exitCode_of_source⟩
    intro hroom
    exact ⟨congrArg exitCode (hopens.assembleFile_of_source hroom).1,
      hopens.resolve_of_source hroom hinput⟩

/-- A run into another file, and runs into a link to the input itself: with just enough room for
the words of zeros, and with too little by one byte. -/
theorem input_of_run_link :
    let before := FileTree.Target.found [ofString "in.asm"] (.file (ofString "INC\n1\n"))
    let zeros := (List.replicate 128 (ofString "00000000")).flatMap (· ++ [Bytes.newline])
    let tree (room : Nat) : FileTree :=
      { entries :=
          [([ofString "in.asm"], .file (ofString "INC\n1\n")),
            ([ofString "out"], .link (ofString "./in.asm"))]
        limits := [([ofString "in.asm"], { room := room })] }
    let apart := run (tree 1151) [ofString "in.asm", ofString "image"]
    let itself := run (tree 1152) [ofString "in.asm", ofString "out"]
    let cramped := run (tree 1151) [ofString "in.asm", ofString "out"]
    (∀ room ∈ [1151, 1152], (tree room).resolve .read (ofString "in.asm") = .ok before) ∧
      apart.tree.resolve .read (ofString "in.asm") = .ok before ∧
      itself.code = 0 ∧
      itself.tree.resolve .read (ofString "in.asm") =
        .ok (.found [ofString "in.asm"] (.file zeros)) ∧
      cramped.code = 2 := by
  intro before zeros tree apart itself cramped
  let plain (output : String) : Options := { arguments := [ofString "in.asm", ofString output] }
  have hordinary : ∀ room ∈ [1151, 1152], (tree room).IsOrdinary :=
    fun room hroom => FileTree.isOrdinary_of_entries (by revert room; decide +kernel)
  have hparse : ∀ output ∈ ["image", "out"],
      Options.parse [ofString "in.asm", ofString output] = .ok (plain output) := by
    decide +kernel
  have hinput : ∀ room ∈ [1151, 1152],
      (tree room).resolve .read (ofString "in.asm") = .ok before := by decide +kernel
  have hfree : (tree 1151).resolve .create (ofString "image") = .ok (.free [ofString "image"]) := by
    decide +kernel
  have hsame : ∀ room ∈ [1151, 1152],
      (tree room).resolve .create (ofString "out") = .ok before := by decide +kernel
  have hopens : ∀ room ∈ [1151, 1152], OpensOutput (tree room) (plain "out") (ofString "in.asm")
      (ofString "out") Catalog.builtIn [ofString "in.asm"] [ofString "in.asm"] :=
    fun room hroom => ⟨rfl, openRead_of_resolve (hinput room hroom), before, hsame room hroom,
      Or.inr ⟨_, rfl⟩⟩
  have hapart : ∀ catalog, ¬ OpensOutput (tree 1151) (plain "image") (ofString "in.asm")
      (ofString "image") catalog [ofString "in.asm"] [ofString "in.asm"] := by
    rintro catalog ⟨-, -, result, hresolve, hresult⟩
    cases hfree.symm.trans hresolve
    rcases hresult with heq | ⟨old, heq⟩
    · exact absurd heq (by decide)
    · cases heq
  obtain ⟨hkept, -⟩ := input_of_run (hparse "image" (by simp)) rfl rfl
    (hordinary 1151 (by simp)) (hinput 1151 (by simp))
  obtain ⟨-, hlost⟩ := input_of_run (hparse "out" (by simp)) rfl rfl
    (hordinary 1152 (by simp)) (hinput 1152 (by simp))
  obtain ⟨-, hlost'⟩ := input_of_run (hparse "out" (by simp)) rfl rfl
    (hordinary 1151 (by simp)) (hinput 1151 (by simp))
  obtain ⟨hcode, hzeros⟩ := (hlost _ (hopens 1152 (by simp))).1 (by decide +kernel)
  have hcode' := (hlost' _ (hopens 1151 (by simp))).2 (by decide +kernel)
  exact ⟨hinput, hkept hapart, hcode, hzeros, hcode'⟩

/-- **An input that is its own output is lost**: a source of two words becomes an image of none. -/
theorem input_lost_to_output :
    let tree : FileTree := { entries := [([ofString "a.asm"], .file (ofString "INC\n1\n"))] }
    let before := FileTree.Target.found [ofString "a.asm"] (.file (ofString "INC\n1\n"))
    let outcome := run tree [ofString "a.asm", ofString "a.asm"]
    tree.IsOrdinary ∧ tree.resolve .read (ofString "a.asm") = .ok before ∧ outcome.code = 0 ∧
      outcome.tree.resolve .read (ofString "a.asm") ≠ .ok before := by
  intro tree before outcome
  have hinput : tree.resolve .read (ofString "a.asm") = .ok before := by decide +kernel
  have hcreate : tree.resolve .create (ofString "a.asm") = .ok before := by decide +kernel
  let options : Options := { arguments := [ofString "a.asm", ofString "a.asm"] }
  have hopens : OpensOutput tree options (ofString "a.asm") (ofString "a.asm") Catalog.builtIn
      [ofString "a.asm"] [ofString "a.asm"] :=
    ⟨rfl, openRead_of_resolve hinput, before, hcreate, Or.inr ⟨_, rfl⟩⟩
  have hparse : Options.parse [ofString "a.asm", ofString "a.asm"] = .ok options := by
    decide +kernel
  have hroom : tree.HasRoom [ofString "a.asm"] (imageText Catalog.builtIn {}).length := by
    decide +kernel
  have houtcome : outcome = _ := run_eq_outcome hparse rfl rfl
  have hresolve : outcome.tree.resolve .read (ofString "a.asm") =
      .ok (.found [ofString "a.asm"] (.file (imageText Catalog.builtIn {}))) := by
    rw [houtcome]
    exact hopens.resolve_of_source hroom hinput
  refine ⟨FileTree.isOrdinary_of_entries (by decide), hinput, ?_, ?_⟩
  · rw [houtcome]
    exact congrArg exitCode (hopens.assembleFile_of_source hroom).1
  · -- The image begins with a zero, the source with a letter.
    have hhead : (imageText Catalog.builtIn {}).head? ≠ (ofString "INC\n1\n").head? := by
      decide +kernel
    intro heq
    have htarget := Except.ok.inj (hresolve.symm.trans heq)
    have htext := FileTree.Entry.file.inj (FileTree.Target.found.inj htarget).2
    exact hhead (congrArg List.head? htext)

end OnePass
