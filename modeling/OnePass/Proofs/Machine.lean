import OnePass.Machine
import OnePass.Proofs.Block

/-
**What the token machine remembers.**

The machine keeps little: the program emitted so far, the instruction that waits for operands, how
many are missing, and the line on which the last instruction that had to wait began.  This module
says what these mean.  At any time, and whatever was refused on the way, the machine stands behind a
parse: its program is the translation of complete blocks, followed, exactly if it waits, by that of
a block that has been started, and what it waits for is what this block lacks.

Main definitions:

* `OnePass.Machine.Reads` — **the invariant**: the machine stands behind a parse;
* `OnePass.Machine.State`, `OnePass.Machine.state`, `OnePass.Machine.current`,
  `OnePass.Machine.remaining` — what the machine waits for;
* `OnePass.Machine.Step`, `OnePass.Machine.run` — tokens and ends of input, in any order, going on
  behind what was refused.

Main results:

* `OnePass.Machine.feed_eq_ok_iff`, `OnePass.Machine.feed_eq_error_iff` — what one token can do;
* `OnePass.Machine.Reads.feed` — an accepted token keeps the invariant and is the next one read;
* `OnePass.Machine.Reads.run` — **no run breaks the invariant**.
-/

set_option relaxedAutoImplicit false
set_option autoImplicit false

namespace OnePass.Machine

open Source (Token)

/-! ### One token -/

/-- The machine behind the mnemonic of an instruction. -/
def begin (m : Machine) (i : Instruction) (line : Int) : Machine :=
  { m with
    program := m.program.push ⟨i.opcode, line, i.mnemonic, .opcode⟩
    pending := if i.arity = 0 then none else some ⟨i, i.arity⟩
    startLine := if i.arity = 0 then m.startLine else line }

/-- The machine behind an operand of an instruction that waits. -/
def supply (m : Machine) (pending : Pending) (token : Bytes) (line : Int) : Machine :=
  { m with
    program := m.program.push
      ⟨Word.pad token m.catalog.wordSize, line, pending.instruction.mnemonic, .operand⟩
    pending :=
      if pending.remaining - 1 = 0 then none
      else some { pending with remaining := pending.remaining - 1 } }

variable {m m' : Machine} {token : Bytes} {line : Int} {record : Record} {fault : Fault}

/-- Between instructions a mnemonic is accepted. -/
theorem feed_of_find? {i : Instruction} (hpending : m.pending = none)
    (hfind : m.catalog.find? token = some i) :
    m.feed token line = .ok (⟨i.opcode, line, i.mnemonic, .opcode⟩, m.begin i line) := by
  unfold feed
  rw [hpending]
  simp only [feedMnemonic, hfind, begin]
  by_cases harity : i.arity = 0
  · simp only [harity, if_true, hpending]
  · simp only [harity, if_false]

/-- An instruction that waits accepts a literal. -/
theorem feed_of_literal {pending : Pending} (hpending : m.pending = some pending)
    (hlit : Word.Literal m.catalog.wordSize token) :
    m.feed token line =
      .ok (⟨Word.pad token m.catalog.wordSize, line, pending.instruction.mnemonic, .operand⟩,
        m.supply pending token line) := by
  unfold feed
  rw [hpending]
  simp only [feedOperand, supply]
  rw [if_pos (Word.literal_iff.1 hlit)]

/-- Between instructions anything else is an unknown command. -/
theorem feed_of_find?_eq_none (hpending : m.pending = none)
    (hfind : m.catalog.find? token = none) :
    m.feed token line = .error (.unknownCommand line token) := by
  unfold feed
  rw [hpending]
  simp only [feedMnemonic, hfind]

/-- An instruction that waits refuses anything else. -/
theorem feed_of_not_literal {pending : Pending} (hpending : m.pending = some pending)
    (hlit : ¬ Word.Literal m.catalog.wordSize token) :
    m.feed token line =
      .error (.invalidArgument line pending.instruction.mnemonic token m.catalog.wordSize) := by
  unfold feed
  rw [hpending]
  simp only [feedOperand]
  rw [if_neg (fun h => hlit (Word.literal_iff.2 h))]

/-- **What an accepted token can be**: a mnemonic between instructions, or a literal for an
instruction that waits. -/
theorem feed_eq_ok_iff :
    m.feed token line = .ok (record, m') ↔
      (∃ i, m.pending = none ∧ m.catalog.find? token = some i ∧
        record = ⟨i.opcode, line, i.mnemonic, .opcode⟩ ∧ m' = m.begin i line) ∨
      (∃ pending, m.pending = some pending ∧ Word.Literal m.catalog.wordSize token ∧
        record = ⟨Word.pad token m.catalog.wordSize, line, pending.instruction.mnemonic, .operand⟩ ∧
        m' = m.supply pending token line) := by
  constructor
  · intro h
    cases hpending : m.pending with
    | none =>
        cases hfind : m.catalog.find? token with
        | none =>
            rw [feed_of_find?_eq_none hpending hfind] at h
            cases h
        | some i =>
            rw [feed_of_find? hpending hfind] at h
            cases h
            exact Or.inl ⟨i, rfl, rfl, rfl, rfl⟩
    | some pending =>
        by_cases hlit : Word.Literal m.catalog.wordSize token
        · rw [feed_of_literal hpending hlit] at h
          cases h
          exact Or.inr ⟨pending, rfl, hlit, rfl, rfl⟩
        · rw [feed_of_not_literal hpending hlit] at h
          cases h
  · rintro (⟨i, hpending, hfind, rfl, rfl⟩ | ⟨pending, hpending, hlit, rfl, rfl⟩)
    · exact feed_of_find? hpending hfind
    · exact feed_of_literal hpending hlit

/-- **What a refused token can be**: no mnemonic between instructions, or no literal for an
instruction that waits. -/
theorem feed_eq_error_iff :
    m.feed token line = .error fault ↔
      (m.pending = none ∧ m.catalog.find? token = none ∧ fault = .unknownCommand line token) ∨
      (∃ pending, m.pending = some pending ∧ ¬ Word.Literal m.catalog.wordSize token ∧
        fault =
          .invalidArgument line pending.instruction.mnemonic token m.catalog.wordSize) := by
  constructor
  · intro h
    cases hpending : m.pending with
    | none =>
        cases hfind : m.catalog.find? token with
        | none =>
            rw [feed_of_find?_eq_none hpending hfind] at h
            exact Or.inl ⟨rfl, rfl, (Except.error.inj h).symm⟩
        | some i =>
            rw [feed_of_find? hpending hfind] at h
            cases h
    | some pending =>
        by_cases hlit : Word.Literal m.catalog.wordSize token
        · rw [feed_of_literal hpending hlit] at h
          cases h
        · rw [feed_of_not_literal hpending hlit] at h
          exact Or.inr ⟨pending, rfl, hlit, (Except.error.inj h).symm⟩
  · rintro (⟨hpending, hfind, rfl⟩ | ⟨pending, hpending, hlit, rfl⟩)
    · exact feed_of_find?_eq_none hpending hfind
    · exact feed_of_not_literal hpending hlit

/-- An accepted token adds its record to the program. -/
theorem program_of_feed (h : m.feed token line = .ok (record, m')) :
    m'.program = m.program.push record := by
  rcases feed_eq_ok_iff.1 h with ⟨i, -, -, rfl, rfl⟩ | ⟨pending, -, -, rfl, rfl⟩
  · rfl
  · rfl

theorem catalog_of_feed (h : m.feed token line = .ok (record, m')) : m'.catalog = m.catalog := by
  rcases feed_eq_ok_iff.1 h with ⟨i, -, -, -, rfl⟩ | ⟨pending, -, -, -, rfl⟩
  · rfl
  · rfl

/-! ### The invariant -/

/-- What a block that has been started makes a machine wait for. -/
def awaited (block : Block) : Pending :=
  ⟨block.instruction, block.instruction.arity - block.operands.length⟩

/-- **The machine stands behind a parse**: it has emitted what the parse is translated to and waits
for what the last block lacks. -/
structure Reads {catalog : Catalog} (m : Machine) (parse : Parse catalog) : Prop where
  /-- The machine works with the catalog of the parse. -/
  catalog_eq : m.catalog = catalog
  /-- The program is the translation of the parse. -/
  records_eq : m.program.records = parse.records
  /-- The machine waits for the operands that the last block lacks. -/
  pending_eq : m.pending = parse.last.map awaited
  /-- It remembers where that block began. -/
  startLine_eq : ∀ block ∈ parse.last, m.startLine = block.line

/-- A new machine has read nothing. -/
theorem reads_empty (catalog : Catalog) :
    ({ catalog := catalog } : Machine).Reads (Parse.empty catalog) :=
  ⟨rfl, rfl, rfl, by simp [Parse.empty]⟩

namespace Reads

variable {catalog : Catalog} {parse : Parse catalog}

theorem last_eq_none (h : m.Reads parse) (hpending : m.pending = none) : parse.last = none := by
  have hmap := h.pending_eq.symm.trans hpending
  simpa using hmap

/-- A machine that waits has read a block that lacks operands. -/
theorem exists_last (h : m.Reads parse) {pending : Pending} (hpending : m.pending = some pending) :
    ∃ block, parse.last = some block ∧ pending = awaited block ∧ block.Started catalog := by
  have hmap := h.pending_eq.symm.trans hpending
  obtain ⟨block, hlast, hblock⟩ := Option.map_eq_some_iff.1 hmap
  exact ⟨block, hlast, hblock.symm, parse.started block hlast⟩

/-- A machine stands behind complete blocks and one more block if it has emitted all of them and
waits for what the last one lacks. -/
theorem place {blocks : List Block} {block : Block} {hblocks : ∀ b ∈ blocks, b.Complete catalog}
    {hblock : block.Matches catalog} {hle : block.operands.length ≤ block.instruction.arity}
    (hcatalog : m.catalog = catalog)
    (hrecords : m.program.records =
      blocks.flatMap (Block.records catalog.wordSize) ++ block.records catalog.wordSize)
    (hpending : m.pending =
      if block.operands.length = block.instruction.arity then none else some (awaited block))
    (hstart : block.operands.length ≠ block.instruction.arity → m.startLine = block.line) :
    m.Reads (Parse.place blocks block hblocks hblock hle) := by
  refine ⟨hcatalog, hrecords.trans Parse.records_place.symm, ?_, ?_⟩
  · rw [hpending, Parse.last_place]
    split <;> rfl
  · intro b hb
    rw [Parse.last_place] at hb
    split at hb
    · cases hb
    · next hshort =>
      rw [← Option.mem_some.1 hb]
      exact hstart hshort

/-- An accepted mnemonic is the beginning of the next block. -/
theorem begin {i : Instruction} (h : m.Reads parse) (hpending : m.pending = none)
    (hfind : m.catalog.find? token = some i) (line : Int) :
    ∃ parse' : Parse catalog, (m.begin i line).Reads parse' ∧
      parse'.tokens = parse.tokens ++ [⟨line, token⟩] := by
  have hlast := h.last_eq_none hpending
  have hblock : (⟨i, line, []⟩ : Block).Matches catalog := by
    refine ⟨?_, by simp⟩
    rw [← h.catalog_eq]
    exact Catalog.find?_mnemonic hfind
  refine ⟨Parse.place parse.blocks ⟨i, line, []⟩ parse.complete hblock (Nat.zero_le _), ?_, ?_⟩
  · refine place h.catalog_eq ?_ ?_ ?_
    · simp [Machine.begin, h.records_eq, Parse.records, Parse.allBlocks, hlast, Block.records,
        Block.headRecord]
    · simp only [Machine.begin, List.length_nil, awaited, Nat.sub_zero, eq_comm (a := 0)]
    · intro harity
      exact if_neg fun h0 => harity h0.symm
  · rw [Parse.tokens_place]
    simp [Parse.tokens, Parse.allBlocks, hlast, Block.tokens, Catalog.mnemonic_of_find? hfind]

/-- An accepted literal is the next operand of the block that has been started. -/
theorem supply {pending : Pending} (h : m.Reads parse) (hpending : m.pending = some pending)
    (hlit : Word.Literal m.catalog.wordSize token) (line : Int) :
    ∃ parse' : Parse catalog, (m.supply pending token line).Reads parse' ∧
      parse'.tokens = parse.tokens ++ [⟨line, token⟩] := by
  obtain ⟨block, hlast, rfl, hstarted⟩ := h.exists_last hpending
  rw [h.catalog_eq] at hlit
  have hlength : (block.push ⟨line, token⟩).operands.length = block.operands.length + 1 := by
    rw [Block.operands_push, List.length_append, List.length_singleton]
  have hle : (block.push ⟨line, token⟩).operands.length ≤
      (block.push ⟨line, token⟩).instruction.arity := by
    rw [hlength]
    exact hstarted.short
  refine ⟨Parse.place parse.blocks (block.push ⟨line, token⟩) parse.complete
    (hstarted.toMatches.push hlit) hle, ?_, ?_⟩
  · refine place h.catalog_eq ?_ ?_ ?_
    · rw [Block.records_push]
      simp [Machine.supply, h.records_eq, h.catalog_eq, Parse.records, Parse.allBlocks, hlast,
        Block.operandRecord, awaited]
    · -- One operand less is missing; if it was the last one, the block is complete.
      have hshort := hstarted.short
      simp only [Machine.supply, awaited, hlength, Block.instruction_push, Nat.sub_sub]
      by_cases hfull : block.operands.length + 1 = block.instruction.arity
      · rw [if_pos hfull, if_pos (by omega)]
      · rw [if_neg hfull, if_neg (by omega)]
    · intro _
      exact h.startLine_eq block hlast
  · rw [Parse.tokens_place, Block.tokens_push]
    simp [Parse.tokens, Parse.allBlocks, hlast]

/-- **An accepted token keeps the invariant**, and is the next one read. -/
theorem feed (h : m.Reads parse) (hfeed : m.feed token line = .ok (record, m')) :
    ∃ parse' : Parse catalog, m'.Reads parse' ∧
      parse'.tokens = parse.tokens ++ [⟨line, token⟩] := by
  rcases feed_eq_ok_iff.1 hfeed with
    ⟨i, hpending, hfind, -, rfl⟩ | ⟨pending, hpending, hlit, -, rfl⟩
  · exact h.begin hpending hfind line
  · exact h.supply hpending hlit line

end Reads

/-! ### Whole runs -/

/-- One thing that can happen to a machine. -/
inductive Step where
  /-- A token arrives. -/
  | feed (token : Bytes) (line : Int)
  /-- The source is said to end. -/
  | finish
  deriving DecidableEq, Repr

/-- The machine behind a step.  A token that is refused leaves the machine as it is, and so does an
end of the source. -/
def step (m : Machine) : Step → Machine
  | .feed token line =>
    match m.feed token line with
    | .ok (_, m') => m'
    | .error _ => m
  | .finish => m

/-- The machine behind a sequence of steps. -/
def run (m : Machine) (steps : List Step) : Machine :=
  steps.foldl step m

/-- No step breaks the invariant. -/
theorem Reads.step {catalog : Catalog} {parse : Parse catalog} (h : m.Reads parse) (s : Step) :
    ∃ parse' : Parse catalog, (m.step s).Reads parse' := by
  cases s with
  | finish => exact ⟨parse, h⟩
  | feed token line =>
      cases hfeed : m.feed token line with
      | error fault =>
          refine ⟨parse, ?_⟩
          simpa only [Machine.step, hfeed] using h
      | ok next =>
          obtain ⟨parse', h', -⟩ := h.feed hfeed
          refine ⟨parse', ?_⟩
          simpa only [Machine.step, hfeed] using h'

/-- No run breaks the invariant. -/
theorem Reads.run {catalog : Catalog} {parse : Parse catalog} (h : m.Reads parse)
    (steps : List Step) : ∃ parse' : Parse catalog, (m.run steps).Reads parse' := by
  induction steps generalizing m parse with
  | nil => exact ⟨parse, h⟩
  | cons s steps ih =>
      obtain ⟨parse', h'⟩ := h.step s
      exact ih h'

/-! ### What a machine waits for -/

/-- What a machine reads next. -/
inductive State where
  /-- A mnemonic. -/
  | expectInstruction
  /-- An operand. -/
  | expectArgument
  deriving DecidableEq, Repr

/-- What the machine reads next. -/
def state (m : Machine) : State :=
  if m.pending.isSome then .expectArgument else .expectInstruction

/-- The instruction that waits for operands; the blank one if there is none. -/
def current (m : Machine) : Instruction :=
  (m.pending.map (·.instruction)).getD .blank

/-- The number of operands that are missing. -/
def remaining (m : Machine) : Nat :=
  (m.pending.map (·.remaining)).getD 0

namespace Reads

variable {catalog : Catalog} {parse : Parse catalog}

/-- All words of a machine that stands behind a parse are memory words. -/
theorem ofWidth_word (h : m.Reads parse) (hwf : catalog.WellFormed) {record : Record}
    (hr : record ∈ m.program.records) : Word.OfWidth catalog.wordSize record.word := by
  rw [h.records_eq, Parse.records] at hr
  obtain ⟨block, hblock, hr⟩ := List.mem_flatMap.1 hr
  exact (Parse.matches_of_mem hblock).ofWidth_word hwf hr

end Reads

end OnePass.Machine
