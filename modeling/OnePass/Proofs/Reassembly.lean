import OnePass.Proofs.Assembly
import OnePass.Proofs.Sanitize

/-
**A program can be written down and assembled again.**

Every record of a program can be written on a line of its own: an opcode by its mnemonic, an operand
by its word.  The machine takes such a line for what it was written from.  The mnemonic was a token
once, so it is one again, bytes that are not UTF-8 having been replaced before; and a word is a
literal that needs no zeros.  So whatever a machine has emitted, a new machine that reads it emits
it too, and waits for the same in the end.  The lines are in the order of the records then, and are
numbered from one.

Main definitions:

* `OnePass.Record.written`, `OnePass.Program.written` — the line of a record, the lines of a
  program;
* `OnePass.Program.inOrder` — the records of a program, from lines in this order;
* `OnePass.Machine.Replay` — **the invariant**: a machine that has read what another one emitted.

Main results:

* `OnePass.Machine.feed_written` — an accepted token and the line of its record are the same to the
  machine;
* `OnePass.Machine.Replay.feed` — **one more token can be replayed**;
* `OnePass.assemble_written` — **reassembling a program reproduces it**.
-/

set_option relaxedAutoImplicit false
set_option autoImplicit false

namespace OnePass

open Source (Token)

/-! ### Programs as sources -/

/-- The line that a record is written on: the mnemonic of an opcode, the word of an operand. -/
def Record.written (record : Record) : Bytes :=
  match record.role with
  | .opcode => record.mnemonic
  | .operand => record.word

/-- **The lines that a program is written on**, one for every record. -/
def Program.written (program : Program) : List Bytes :=
  program.records.map Record.written

/-- The records of a program as lines in this order give them, which are numbered from one. -/
def Program.inOrder (program : Program) : List Record :=
  (program.records.zipIdx 1).map fun entry => { entry.1 with line := entry.2 }

theorem Program.written_push (program : Program) (record : Record) :
    (program.push record).written = program.written ++ [record.written] := by
  simp [written]

@[simp] theorem Program.length_written (program : Program) :
    program.written.length = program.size := by
  simp [written]

theorem Program.inOrder_push (program : Program) (record : Record) :
    (program.push record).inOrder =
      program.inOrder ++ [{ record with line := (1 + program.size : Nat) }] := by
  simp [inOrder, List.zipIdx_append]

/-- What does not depend on a line is the same from lines in order. -/
theorem Program.map_inOrder {α : Type} (program : Program) (f : Record → α)
    (h : ∀ record line, f { record with line := line } = f record) :
    program.inOrder.map f = program.records.map f := by
  rw [inOrder, List.map_map]
  have hcomp : (f ∘ fun entry : Record × Nat => { entry.1 with line := entry.2 }) =
      f ∘ Prod.fst := funext fun entry => h entry.1 entry.2
  rw [hcomp, ← List.map_map, List.zipIdx_map_fst]

theorem Program.map_line_inOrder (program : Program) :
    program.inOrder.map (·.line) = (List.range' 1 program.size).map Int.ofNat := by
  rw [inOrder, List.map_map, ← length_records, ← List.zipIdx_map_snd 1 program.records,
    List.map_map]
  rfl

/-! ### Records are tokens again -/

/-- The text of a token is clean and not empty. -/
theorem Source.clean_of_mem_tokensFrom {number : Nat} {lines : List Bytes} {token : Token}
    (h : token ∈ tokensFrom number lines) : Clean token.text ∧ token.text ≠ [] := by
  obtain ⟨line, -, htext⟩ := exists_mem_of_mem_tokensFrom h
  refine ⟨?_, by simpa using (List.mem_filter.1 h).2⟩
  rw [htext]
  exact clean_sanitize line

namespace Machine

variable {m m' n : Machine} {token : Bytes} {line : Int} {record : Record}

/-- The line of an emitted record is a token as it stands. -/
theorem clean_written (h : m.feed token line = .ok (record, n)) (htoken : Source.Clean token)
    (hne : token ≠ []) : Source.Clean record.written ∧ record.written ≠ [] := by
  rcases feed_eq_ok_iff.1 h with
    ⟨i, -, hfind, rfl, -⟩ | ⟨pending, -, hlit, rfl, -⟩
  · -- The mnemonic under which an instruction is found is the token itself.
    have hwritten : i.mnemonic = token := Catalog.mnemonic_of_find? hfind
    simp only [Record.written, hwritten]
    exact ⟨htoken, hne⟩
  · exact ⟨Source.clean_of_isDigit hlit.ofWidth_pad.2, hlit.pad.ne_nil⟩

/-- **An accepted token and the line of its record are the same to the machine.** -/
theorem feed_written (h : m.feed token line = .ok (record, n)) :
    m.feed record.written line = .ok (record, n) := by
  rcases feed_eq_ok_iff.1 h with
    ⟨i, hpending, hfind, rfl, rfl⟩ | ⟨pending, hpending, hlit, rfl, rfl⟩
  · exact feed_of_find? hpending (Catalog.find?_mnemonic hfind)
  · have hpad : Word.pad (Word.pad token m.catalog.wordSize) m.catalog.wordSize =
        Word.pad token m.catalog.wordSize :=
      Word.pad_eq_self (Nat.le_of_eq hlit.ofWidth_pad.1.symm)
    have hfeed : m.feed (Word.pad token m.catalog.wordSize) line = _ :=
      feed_of_literal hpending hlit.pad
    simp only [supply, hpad] at hfeed
    exact hfeed

/-- What a machine makes of a token depends on its catalog and on what it waits for, and not on the
line. -/
theorem feed_on_line (hcatalog : m'.catalog = m.catalog) (hpending : m'.pending = m.pending)
    (h : m.feed token line = .ok (record, n)) (line' : Int) :
    ∃ n', m'.feed token line' = .ok ({ record with line := line' }, n') ∧
      n'.catalog = n.catalog ∧ n'.pending = n.pending := by
  rcases feed_eq_ok_iff.1 h with
    ⟨i, hnone, hfind, rfl, rfl⟩ | ⟨pending, hsome, hlit, rfl, rfl⟩
  · rw [← hpending] at hnone
    rw [← hcatalog] at hfind
    exact ⟨m'.begin i line', feed_of_find? hnone hfind, hcatalog, rfl⟩
  · rw [← hpending] at hsome
    rw [← hcatalog] at hlit ⊢
    exact ⟨m'.supply pending token line', feed_of_literal hsome hlit, hcatalog, rfl⟩

/-! ### Replaying a machine -/

/-- **The machine `m'` replays `m`**: it has read the program of `m`, has emitted the same, and
waits for the same. -/
structure Replay (m m' : Machine) : Prop where
  /-- A new machine becomes `m'` when it reads what `m` has emitted. -/
  feedAll_eq : ({ catalog := m.catalog } : Machine).feedAll (Source.tokens m.program.written) =
    .ok m'
  /-- Both machines work with the same catalog. -/
  catalog_eq : m'.catalog = m.catalog
  /-- They wait for the same operands. -/
  pending_eq : m'.pending = m.pending
  /-- They have emitted the same, the second one from lines in order. -/
  records_eq : m'.program.records = m.program.inOrder

namespace Replay

/-- A new machine replays itself. -/
theorem empty (catalog : Catalog) : Replay { catalog := catalog } { catalog := catalog } :=
  ⟨rfl, rfl, rfl, rfl⟩

/-- **One more token can be replayed.** -/
theorem feed (h : Replay m m') (hfeed : m.feed token line = .ok (record, n))
    (htoken : Source.Clean token) (hne : token ≠ []) : ∃ n', Replay n n' := by
  obtain ⟨hclean, hwritten⟩ := clean_written hfeed htoken hne
  have hprogram := program_of_feed hfeed
  -- The record is written behind the others, on the line that comes next.
  obtain ⟨n', hfeed', hcatalog, hpending⟩ :=
    feed_on_line h.catalog_eq h.pending_eq (feed_written hfeed) (1 + m.program.size : Nat)
  have htokens : Source.tokensFrom (1 + m.program.written.length) [record.written] =
      [⟨(1 + m.program.size : Nat), record.written⟩] := by
    rw [Source.tokensFrom_cons_of_ne (by rwa [hclean.sanitize_eq]), hclean.sanitize_eq,
      Program.length_written]
    rfl
  refine ⟨n', ?_, hcatalog, hpending, ?_⟩
  · rw [catalog_of_feed hfeed, hprogram, Program.written_push, Source.tokens_append,
      feedAll_append_of_ok h.feedAll_eq, htokens]
    exact feedAll_cons_of_ok hfeed'
  · rw [program_of_feed hfeed', hprogram, Program.inOrder_push, Program.records_push, h.records_eq]

/-- **Every run can be replayed.** -/
theorem feedAll {tokens : List Token} (h : Replay m m') (hfeed : m.feedAll tokens = .ok n)
    (hclean : ∀ token ∈ tokens, Source.Clean token.text ∧ token.text ≠ []) :
    ∃ n', Replay n n' := by
  induction tokens generalizing m m' with
  | nil =>
      cases hfeed
      exact ⟨m', h⟩
  | cons token tokens ih =>
      obtain ⟨record, m₁, htoken, hrest⟩ := exists_feed_of_feedAll_cons hfeed
      obtain ⟨⟨hfirst, hne⟩, hothers⟩ := List.forall_mem_cons.1 hclean
      obtain ⟨m₁', h₁⟩ := h.feed htoken hfirst hne
      exact ih h₁ hrest hothers

end Replay

end Machine

/-! ### Reassembly -/

/-- **Reassembling a program reproduces it.**  Whatever a program was assembled from, its lines
assemble again, to the same words of the same instructions in the same roles, and every record has
the number of its line. -/
theorem assemble_written {catalog : Catalog} {source : LineSource} {program : Program}
    (h : (assemble catalog source).result = .ok program) {ending : Fault}
    (heof : ending.isEndOfInput = true) :
    ∃ again, (assemble catalog ⟨program.written, ending⟩).result = .ok again ∧
      again.words = program.words ∧
      again.records.map (·.mnemonic) = program.records.map (·.mnemonic) ∧
      again.records.map (·.role) = program.records.map (·.role) ∧
      again.records.map (·.line) = (List.range' 1 program.size).map Int.ofNat := by
  rw [assemble_eq_assembleFrom] at h
  obtain ⟨m, hfeed, -, hpending, rfl⟩ := result_assembleFrom_eq_ok_iff.1 h
  obtain ⟨parse, hreads, -⟩ := (Machine.reads_empty catalog).feedAll hfeed
  obtain ⟨m', hreplay⟩ := (Machine.Replay.empty catalog).feedAll hfeed
    fun token htoken => Source.clean_of_mem_tokensFrom htoken
  have hfeed' := hreplay.feedAll_eq
  rw [hreads.catalog_eq] at hfeed'
  refine ⟨m'.program, ?_, ?_, ?_, ?_, ?_⟩
  · rw [assemble_eq_assembleFrom]
    exact result_assembleFrom_eq_ok_iff.2
      ⟨m', hfeed', heof, hreplay.pending_eq.trans hpending, rfl⟩
  · rw [Program.words, hreplay.records_eq]
    exact m.program.map_inOrder (·.word) fun _ _ => rfl
  · rw [hreplay.records_eq]
    exact m.program.map_inOrder (·.mnemonic) fun _ _ => rfl
  · rw [hreplay.records_eq]
    exact m.program.map_inOrder (·.role) fun _ _ => rfl
  · rw [hreplay.records_eq]
    exact m.program.map_line_inOrder

/-- A mnemonic of a newline, a replacement character and a carriage return, read from a line whose
second byte is not UTF-8, and an operand that is written with fewer digits than a word has. -/
theorem assemble_written_odd_mnemonic :
    let mnemonic : Bytes := [0x0a, 0xef, 0xbf, 0xbd, 0x0d]
    let table : Table := ⟨[], 4, [⟨mnemonic, Bytes.ofString "1010", 1⟩]⟩
    let catalog : Catalog := ⟨[], 4, [⟨mnemonic, Bytes.ofString "1010", 1⟩]⟩
    let source : LineSource :=
      ⟨[[0x0a, 0xff, 0x20, 0x0d, 0x3b, 0x0a], [], Bytes.ofString "1 1;"], .endOfInput⟩
    table.build = .ok catalog ∧
      ∃ program, (assemble catalog source).result = .ok program ∧
        program.written = [mnemonic, Bytes.ofString "0011"] ∧
        ∃ again, (assemble catalog ⟨program.written, .endOfInput⟩).result = .ok again ∧
          again.words = program.words ∧
          again.records.map (·.mnemonic) = program.records.map (·.mnemonic) ∧
          again.records.map (·.role) = program.records.map (·.role) ∧
          again.records.map (·.line) = (List.range' 1 program.size).map Int.ofNat := by
  intro mnemonic table catalog source
  have h : (assemble catalog source).result = .ok (assemble catalog source).program := rfl
  exact ⟨rfl, _, h, rfl, assemble_written h rfl⟩

end OnePass
