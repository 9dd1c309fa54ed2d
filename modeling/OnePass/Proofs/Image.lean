import Mathlib.Data.List.Nodup
import OnePass.Image.Emitter
import OnePass.Proofs.Assembly

/-
**A memory image determines its program.**

An image has no marks: it is a list of words, some of which are opcodes, some operands and some, at
its end, neither.  It can still be read in one way only.  The first word is an opcode, which says
how many operands follow; behind them stands the next opcode, or there is none.  What is needed is
that different instructions have different opcodes, and that no opcode is the word of zeros that
fills the memory up.

Main definitions:

* `OnePass.Record.content` — what a record says, apart from the line it came from.

Main results:

* `OnePass.Emitter.emit_of_writeLines` — an emission hands over the lines of the image, one after
  another, to any writer;
* `OnePass.Emitter.lines_emit` — a writer that refuses nothing is handed exactly the image;
* `OnePass.Block.contents_eq_of_words_eq` — the words of complete blocks, with words of zeros behind
  them, determine the contents of the records;
* `OnePass.program_eq_of_image_eq` — **programs with the same image have the same records**, lines
  apart.
-/

set_option relaxedAutoImplicit false
set_option autoImplicit false

namespace OnePass

/-! ### What a writer is handed -/

section

variable {W : Type} [LineWriter W]

/-- If no line is refused, those in front are handed over, and then those behind them. -/
theorem exists_writeLines_of_append {writer writer' : W} {lines more : List Bytes}
    (h : writeLines writer (lines ++ more) = (none, writer')) :
    ∃ between, writeLines writer lines = (none, between) ∧
      writeLines between more = (none, writer') := by
  induction lines generalizing writer with
  | nil => exact ⟨writer, rfl, h⟩
  | cons line lines ih =>
      rw [List.cons_append, writeLines] at h
      split at h
      · cases h
      · next hline =>
        obtain ⟨between, hlines, hmore⟩ := ih h
        refine ⟨between, ?_, hmore⟩
        simp only [writeLines, hline, hlines]

namespace Emitter

/-- Writing a line over and over is writing copies of it, and all are taken if none is refused. -/
theorem fill_of_writeLines {writer writer' : W} {line : Bytes} {n : Nat} (taken : Nat)
    (h : writeLines writer (List.replicate n line) = (none, writer')) :
    fill line writer taken n = (none, taken + n, writer') := by
  induction n generalizing writer taken with
  | zero =>
      cases h
      rfl
  | succ n ih =>
      rw [List.replicate_succ, writeLines] at h
      split at h
      · cases h
      · next hline =>
        rw [fill, hline]
        simp only [ih (taken + 1) h, Nat.add_right_comm, Nat.add_assoc]

/-- **An emission hands over the lines of the image**, one after another, and counts them. -/
theorem emit_of_writeLines {e : Emitter} {writer writer' : W} {program : Program}
    (h : writeLines writer (e.image program) = (none, writer')) :
    e.emit writer program = ⟨none, ⟨program.size, e.paddingFor program⟩, writer'⟩ := by
  obtain ⟨between, hwords, hzeros⟩ := exists_writeLines_of_append h
  simp only [emit, hwords, fill_of_writeLines 0 hzeros, Option.map_none, Nat.zero_add]

end Emitter

end

namespace LineShelf

/-- A shelf that refuses no line takes every line. -/
theorem put_of_refused_eq_zero (shelf : LineShelf) (h : shelf.refused = 0) (line : Bytes) :
    shelf.put line = (none, { shelf with lines := shelf.lines.push line }) := by
  rw [put, if_neg]
  omega

theorem writeLines_of_refused_eq_zero (shelf : LineShelf) (h : shelf.refused = 0)
    (lines : List Bytes) :
    writeLines shelf lines = (none, { shelf with lines := shelf.lines ++ lines.toArray }) := by
  induction lines generalizing shelf with
  | nil => simp [writeLines]
  | cons line lines ih =>
      have hput : writeLine shelf line = _ := put_of_refused_eq_zero shelf h line
      simp only [writeLines, hput]
      rw [ih { shelf with lines := shelf.lines.push line } h]
      simp

end LineShelf

/-- **A writer that refuses nothing is handed exactly the image.** -/
theorem Emitter.lines_emit (e : Emitter) (program : Program) :
    (e.emit ({} : LineShelf) program).writer.lines.toList = e.image program := by
  have hwrite := LineShelf.writeLines_of_refused_eq_zero {} rfl (e.image program)
  rw [emit_of_writeLines hwrite]
  simp

/-! ### Reading an image -/

/-- What a record says, apart from the line it came from. -/
def Record.content (record : Record) : Word × Bytes × Role :=
  (record.word, record.mnemonic, record.role)

namespace Block

/-- The words of the operands of a block. -/
def operandWords (width : Nat) (block : Block) : List Word :=
  block.operands.map fun operand => Word.pad operand.text width

theorem map_word_records (width : Nat) (block : Block) :
    (block.records width).map (·.word) =
      block.instruction.opcode :: block.operandWords width := by
  simp [records, headRecord, operandRecord, operandWords, Function.comp_def]

/-- The opcode and the operands of a block give one word each. -/
theorem length_map_word_records (width : Nat) (block : Block) :
    ((block.records width).map (·.word)).length = 1 + block.operands.length := by
  rw [map_word_records, List.length_cons, operandWords, List.length_map, Nat.add_comm]

/-- The instruction and the words of the operands are all that a block says. -/
theorem map_content_records (width : Nat) (block : Block) :
    (block.records width).map Record.content =
      (block.instruction.opcode, block.instruction.mnemonic, .opcode) ::
        (block.operandWords width).map fun word =>
          (word, block.instruction.mnemonic, .operand) := by
  simp [records, headRecord, operandRecord, operandWords, Record.content, Function.comp_def]

variable {catalog : Catalog}

/-- Words of zeros do not begin like a block. -/
theorem head?_replicate_zero_ne {block : Block}
    (hzero : ∀ i ∈ catalog.instructions, i.opcode ≠ Word.zero catalog.wordSize)
    (hblock : block.Complete catalog) (n : Nat) :
    (List.replicate n (Word.zero catalog.wordSize)).head? ≠
      ((block.records catalog.wordSize).map (·.word)).head? := by
  rw [map_word_records, List.head?_cons]
  intro h
  have hmem := List.mem_of_head? h
  exact hzero _ (Catalog.mem_of_find? hblock.known) (List.eq_of_mem_replicate hmem)

/-- **The words of complete blocks, with words of zeros behind them, determine the contents of the
records.** -/
theorem contents_eq_of_words_eq {blocks blocks' : List Block}
    (hopcodes : (catalog.instructions.map (·.opcode)).Nodup)
    (hzero : ∀ i ∈ catalog.instructions, i.opcode ≠ Word.zero catalog.wordSize)
    (hblocks : ∀ block ∈ blocks, block.Complete catalog)
    (hblocks' : ∀ block ∈ blocks', block.Complete catalog) {n n' : Nat}
    (h : (blocks.flatMap (records catalog.wordSize)).map (·.word) ++
        List.replicate n (Word.zero catalog.wordSize) =
      (blocks'.flatMap (records catalog.wordSize)).map (·.word) ++
        List.replicate n' (Word.zero catalog.wordSize)) :
    (blocks.flatMap (records catalog.wordSize)).map Record.content =
      (blocks'.flatMap (records catalog.wordSize)).map Record.content := by
  -- An opcode tells the instruction, and with it what the words behind it are operands of.
  have hhead : ∀ b b' : Block, b.Complete catalog → b'.Complete catalog →
      ((b.records catalog.wordSize).map (·.word)).head? =
        ((b'.records catalog.wordSize).map (·.word)).head? →
      b.instruction = b'.instruction := by
    intro b b' hb hb' hwords
    rw [map_word_records, map_word_records, List.head?_cons, List.head?_cons] at hwords
    exact List.inj_on_of_nodup_map hopcodes (Catalog.mem_of_find? hb.known)
      (Catalog.mem_of_find? hb'.known) (Option.some.inj hwords)
  have hcontent : ∀ b b' : Block, b.instruction = b'.instruction →
      (b.records catalog.wordSize).map (·.word) = (b'.records catalog.wordSize).map (·.word) →
      (b.records catalog.wordSize).map Record.content =
        (b'.records catalog.wordSize).map Record.content := by
    intro b b' hinstruction hwords
    rw [map_word_records, map_word_records] at hwords
    rw [map_content_records, map_content_records, hinstruction, (List.cons.inj hwords).2]
  rw [List.map_flatMap, List.map_flatMap] at h ⊢
  rw [List.flatMap_def, List.flatMap_def]
  exact congrArg List.flatten (map_eq_of_flatMap_append_eq
    (length_map_word_records catalog.wordSize) hhead hcontent
    (fun _ hb => head?_replicate_zero_ne hzero hb n)
    (fun _ hb => head?_replicate_zero_ne hzero hb n') hblocks hblocks' h)

end Block

/-- **A memory image determines its program.**  If no two instructions have the same opcode and none
has the opcode of an unused word, then two programs that were assembled from any two sources and are
written to a memory of any size as the same lines have the same length, and their records agree in
everything but the line: no unused word is ever taken for a word of a program. -/
theorem program_eq_of_image_eq {catalog : Catalog}
    (hopcodes : (catalog.instructions.map (·.opcode)).Nodup)
    (hzero : ∀ i ∈ catalog.instructions,
      i.opcode ≠ List.replicate catalog.wordSize (Bytes.ofAscii '0'))
    (memoryWords : Nat) {source source' : LineSource} {program program' : Program}
    (hprogram : (assemble catalog source).result = .ok program)
    (hprogram' : (assemble catalog source').result = .ok program')
    (himage : (Emitter.emit ⟨catalog.wordSize, memoryWords⟩ ({} : LineShelf) program).writer.lines =
      (Emitter.emit ⟨catalog.wordSize, memoryWords⟩ ({} : LineShelf) program').writer.lines) :
    program.size = program'.size ∧
      program.records.map Record.content = program'.records.map Record.content := by
  obtain ⟨blocks, hsplit, hrecords⟩ := exists_blocks_of_assemble hprogram
  obtain ⟨blocks', hsplit', hrecords'⟩ := exists_blocks_of_assemble hprogram'
  have hlines := congrArg Array.toList himage
  rw [Emitter.lines_emit, Emitter.lines_emit, Emitter.image, Emitter.image, Program.words,
    Program.words, hrecords, hrecords'] at hlines
  have hcontents : program.records.map Record.content = program'.records.map Record.content := by
    rw [hrecords, hrecords']
    exact Block.contents_eq_of_words_eq hopcodes hzero hsplit.complete hsplit'.complete hlines
  refine ⟨?_, hcontents⟩
  rw [← Program.length_records, ← Program.length_records]
  simpa using congrArg List.length hcontents

/-- The built-in instruction set has such opcodes; two sources with the same image in a memory that
is larger than the program. -/
theorem program_eq_of_image_eq_builtIn :
    let opcodes := Catalog.builtIn.instructions.map (·.opcode)
    let source : LineSource := ⟨[Bytes.ofString "INC", Bytes.ofString "0"], .endOfInput⟩
    let source' : LineSource :=
      ⟨[Bytes.ofString "; up", Bytes.ofString "I N C", Bytes.ofString "000"], .endOfInput⟩
    let program := (assemble Catalog.builtIn source).program
    let program' := (assemble Catalog.builtIn source').program
    Catalog.builtIn.toTable.build = .ok Catalog.builtIn ∧ opcodes.Nodup ∧
      Bytes.ofString "00000000" ∉ opcodes ∧ program ≠ program' ∧
      program.size = program'.size ∧
      program.records.map Record.content = program'.records.map Record.content := by
  intro opcodes source source' program program'
  have hprogram : (assemble Catalog.builtIn source).result = .ok program := rfl
  have hprogram' : (assemble Catalog.builtIn source').result = .ok program' := rfl
  exact ⟨Table.build_builtIn, by decide, by decide, by decide,
    program_eq_of_image_eq (by decide) (by decide) 4 hprogram hprogram' rfl⟩

end OnePass
