import OnePass.Proofs.Machine

/-
**A machine that works in place.**

The token machine answers a token with the machine behind it, or with a fault and no machine.  A
machine that works in place has no such luxury.  It keeps what it knows in registers, emits a record
by writing it to the program and showing it to an observer, and may meet a fault at any point of a
step; what it has written by then stays written.  This module does the work of the token machine in
place.  Register by register, the one is the other at any time; and so what the registers hold is
known from the parse behind which the token machine stands, whatever was refused on the way.

Main definitions:

* `OnePass.Registers`, `OnePass.Registers.Work` — **a machine that works in place**, and work that
  may meet a fault and is not undone then;
* `OnePass.Registers.perform`, `OnePass.Registers.run` — one step, and a sequence of steps that goes
  on behind what was refused;
* `OnePass.Registers.Invariant` — **what holds of the registers at any time**;
* `OnePass.Machine.registers` — the registers of a token machine.

Main results:

* `OnePass.Machine.perform_registers`, `OnePass.Machine.run_registers` — a step in place and a step
  of the token machine, and whole runs of both;
* `OnePass.Machine.run_invariant` — **the state of the machine after any run**.
-/

set_option relaxedAutoImplicit false
set_option autoImplicit false

namespace OnePass

open Machine (State Step)
open Source (Token)

/-! ### Working in place -/

/-- **The registers of a machine that works in place**, and the records that its observer was
shown. -/
structure Registers where
  /-- The instructions that the machine knows. -/
  catalog : Catalog
  /-- What the machine reads next. -/
  state : State := .expectInstruction
  /-- The instruction that waits for operands; the blank one if there is none. -/
  current : Instruction := .blank
  /-- The line of the last instruction that had to wait for operands. -/
  startLine : Int := 0
  /-- The number of operands that are missing. -/
  remaining : Int := 0
  /-- The words emitted so far. -/
  program : Program := {}
  /-- The records shown to the observer so far. -/
  announced : List Record := []
  deriving DecidableEq, Repr

namespace Registers

/-- Work on registers.  A fault ends the work, but what has been written stays. -/
abbrev Work := EStateM Fault Registers Unit

/-- Writes a record to the program and shows it to the observer. -/
def emit (record : Record) : Work := do
  modify fun r => { r with program := r.program.push record }
  modify fun r => { r with announced := r.announced ++ [record] }

/-- A token where a mnemonic is due. -/
def feedMnemonic (token : Bytes) (line : Int) : Work := do
  match (← get).catalog.find? token with
  | none => throw (.unknownCommand line token)
  | some i =>
    emit ⟨i.opcode, line, i.mnemonic, .opcode⟩
    if 0 < i.arity then
      modify fun r =>
        { r with state := .expectArgument, current := i, startLine := line, remaining := i.arity }

/-- A token where an operand is due. -/
def feedOperand (token : Bytes) (line : Int) : Work := do
  let width := (← get).catalog.wordSize
  let mnemonic := (← get).current.mnemonic
  if ¬ Word.isBinary token ∨ width < token.length then
    throw (.invalidArgument line mnemonic token width)
  emit ⟨Word.pad token width, line, mnemonic, .operand⟩
  modify fun r => { r with remaining := r.remaining - 1 }
  if (← get).remaining = 0 then
    modify fun r => { r with state := .expectInstruction, current := .blank }

/-- The end of the source. -/
def finish : Work := do
  let r ← get
  if r.state = .expectArgument then
    throw (.unexpectedEnd r.current.mnemonic r.startLine r.remaining)

/-- The work of a step. -/
def work : Step → Work
  | .feed token line => do
    match (← get).state with
    | .expectInstruction => feedMnemonic token line
    | .expectArgument => feedOperand token line
  | .finish => finish

/-- **One step**: the fault that it met, if it did, and the registers behind it. -/
def perform (r : Registers) (s : Step) : Option Fault × Registers :=
  match (work s).run r with
  | .ok _ r' => (none, r')
  | .error fault r' => (some fault, r')

/-- The registers behind a sequence of steps, going on behind what was refused. -/
def run (r : Registers) (steps : List Step) : Registers :=
  steps.foldl (fun r s => (r.perform s).2) r

/-! ### What a step writes -/

section

variable {r : Registers} {token : Bytes} {line : Int}

/-- The registers behind the mnemonic of an instruction. -/
def begin (r : Registers) (i : Instruction) (line : Int) : Registers :=
  let record : Record := ⟨i.opcode, line, i.mnemonic, .opcode⟩
  let r' := { r with program := r.program.push record, announced := r.announced ++ [record] }
  if 0 < i.arity then
    { r' with state := .expectArgument, current := i, startLine := line, remaining := i.arity }
  else r'

/-- The registers behind an operand. -/
def supply (r : Registers) (token : Bytes) (line : Int) : Registers :=
  let record : Record := ⟨Word.pad token r.catalog.wordSize, line, r.current.mnemonic, .operand⟩
  let r' := { r with
    program := r.program.push record
    announced := r.announced ++ [record]
    remaining := r.remaining - 1 }
  if r.remaining - 1 = 0 then { r' with state := .expectInstruction, current := .blank } else r'

theorem perform_of_find? {i : Instruction} (hstate : r.state = .expectInstruction)
    (hfind : r.catalog.find? token = some i) :
    r.perform (.feed token line) = (none, r.begin i line) := by
  by_cases harity : 0 < i.arity
  · simp [perform, work, hstate, feedMnemonic, hfind, emit, begin, harity]
  · simp [perform, work, hstate, feedMnemonic, hfind, emit, begin, harity]

theorem perform_of_find?_eq_none (hstate : r.state = .expectInstruction)
    (hfind : r.catalog.find? token = none) :
    r.perform (.feed token line) = (some (.unknownCommand line token), r) := by
  simp [perform, work, hstate, feedMnemonic, hfind]

theorem perform_of_literal (hstate : r.state = .expectArgument)
    (hlit : Word.Literal r.catalog.wordSize token) :
    r.perform (.feed token line) = (none, r.supply token line) := by
  obtain ⟨hbinary, hle⟩ := Word.literal_iff.1 hlit
  by_cases hlast : r.remaining - 1 = 0
  · simp [perform, work, hstate, feedOperand, hbinary, Nat.not_lt.2 hle, emit, supply, hlast]
  · simp [perform, work, hstate, feedOperand, hbinary, Nat.not_lt.2 hle, emit, supply, hlast]

theorem perform_of_not_literal (hstate : r.state = .expectArgument)
    (hlit : ¬ Word.Literal r.catalog.wordSize token) :
    r.perform (.feed token line) =
      (some (.invalidArgument line r.current.mnemonic token r.catalog.wordSize), r) := by
  have hcheck : Word.isBinary token = false ∨ r.catalog.wordSize < token.length := by
    rw [Word.literal_iff, Classical.not_and_iff_not_or_not] at hlit
    exact hlit.imp Bool.eq_false_iff.2 Nat.lt_of_not_le
  simp [perform, work, hstate, feedOperand, hcheck]

theorem perform_finish (r : Registers) :
    r.perform .finish =
      (if r.state = .expectArgument then
        some (.unexpectedEnd r.current.mnemonic r.startLine r.remaining) else none, r) := by
  by_cases hstate : r.state = .expectArgument
  · simp [perform, work, finish, hstate]
  · simp [perform, work, finish, hstate]

end

/-! ### Whole runs -/

theorem run_cons (r : Registers) (s : Step) (steps : List Step) :
    r.run (s :: steps) = (r.perform s).2.run steps := rfl

/-- **What holds of the registers at any time**, whatever the machine was given. -/
structure Invariant (catalog : Catalog) (r : Registers) : Prop where
  /-- The machine waits for operands exactly if some are missing. -/
  state_iff_remaining : r.state = .expectArgument ↔ 0 < r.remaining
  /-- Operands are missing exactly if there is an instruction to take them. -/
  remaining_iff_current : 0 < r.remaining ↔ r.current ≠ .blank
  /-- The instruction that waits is one of the catalog. -/
  find?_current : r.state = .expectArgument →
    catalog.find? r.current.mnemonic = some r.current
  /-- It lacks at least one operand and at most all of them. -/
  remaining_bounds : r.state = .expectArgument → 1 ≤ r.remaining ∧ r.remaining ≤ r.current.arity
  /-- The program is a sequence of complete blocks, followed, exactly if the machine waits, by the
  block of the instruction that waits, which has the operands that are not missing. -/
  records_eq : ∃ blocks : List Block, (∀ block ∈ blocks, block.Complete catalog) ∧
    ((r.state = .expectInstruction ∧
        r.program.records = blocks.flatMap (Block.records catalog.wordSize)) ∨
      (r.state = .expectArgument ∧ ∃ operands : List Token,
        (operands.length : Int) = r.current.arity - r.remaining ∧
        r.program.records = blocks.flatMap (Block.records catalog.wordSize) ++
          Block.records catalog.wordSize ⟨r.current, r.startLine, operands⟩))
  /-- Every word of the program is a memory word. -/
  ofWidth_word : ∀ record ∈ r.program.records, Word.OfWidth catalog.wordSize record.word
  /-- An end of the source is a fault exactly if the machine waits, and the fault tells for what. -/
  finish_eq : r.perform .finish =
    (if r.state = .expectArgument then
      some (.unexpectedEnd r.current.mnemonic r.startLine r.remaining) else none, r)

end Registers

/-! ### The token machine, register by register -/

namespace Machine

variable {m m' : Machine} {token : Bytes} {line : Int} {record : Record} {fault : Fault}

/-- The registers of a token machine whose observer was shown the whole program. -/
def registers (m : Machine) : Registers where
  catalog := m.catalog
  state := m.state
  current := m.current
  startLine := m.startLine
  remaining := m.remaining
  program := m.program
  announced := m.program.records

/-- The fault that a step of the machine meets. -/
def fault? (m : Machine) : Step → Option Fault
  | .feed token line =>
    match m.feed token line with
    | .ok _ => none
    | .error fault => some fault
  | .finish => m.finish

theorem registers_of_pending_eq_none (hpending : m.pending = none) :
    m.registers = ⟨m.catalog, .expectInstruction, .blank, m.startLine, 0, m.program,
      m.program.records⟩ := by
  simp [registers, state, current, remaining, hpending]

theorem registers_of_pending_eq_some {pending : Pending} (hpending : m.pending = some pending) :
    m.registers = ⟨m.catalog, .expectArgument, pending.instruction, m.startLine,
      pending.remaining, m.program, m.program.records⟩ := by
  simp [registers, state, current, remaining, hpending]

theorem registers_begin (hpending : m.pending = none) (i : Instruction) (line : Int) :
    m.registers.begin i line = (m.begin i line).registers := by
  rw [registers_of_pending_eq_none hpending]
  by_cases harity : i.arity = 0
  · have hnext : (m.begin i line).pending = none := if_pos harity
    rw [registers_of_pending_eq_none hnext]
    simp [Registers.begin, Machine.begin, harity]
  · have hnext : (m.begin i line).pending = some ⟨i, i.arity⟩ := if_neg harity
    rw [registers_of_pending_eq_some hnext]
    simp [Registers.begin, Machine.begin, harity, Nat.pos_of_ne_zero harity]

theorem registers_supply {pending : Pending} (hpending : m.pending = some pending)
    (hpos : 0 < pending.remaining) (token : Bytes) (line : Int) :
    m.registers.supply token line = (m.supply pending token line).registers := by
  have hleft : ((pending.remaining : Int) - 1) = (pending.remaining - 1 : Nat) := by omega
  rw [registers_of_pending_eq_some hpending]
  by_cases hlast : pending.remaining - 1 = 0
  · have hnext : (m.supply pending token line).pending = none := if_pos hlast
    rw [registers_of_pending_eq_none hnext]
    simp [Registers.supply, Machine.supply, hleft, hlast]
  · have hnext : (m.supply pending token line).pending =
        some { pending with remaining := pending.remaining - 1 } := if_neg hlast
    rw [registers_of_pending_eq_some hnext]
    simp [Registers.supply, Machine.supply, hleft, hlast]

/-- **A step in place and a step of the token machine** meet the same fault and lead to the same
registers. -/
theorem perform_registers {catalog : Catalog} {parse : Parse catalog} (h : m.Reads parse)
    (s : Step) : m.registers.perform s = (m.fault? s, (m.step s).registers) := by
  cases s with
  | finish =>
      rw [Registers.perform_finish]
      cases hpending : m.pending with
      | none => simp [registers_of_pending_eq_none hpending, fault?, step, finish, hpending]
      | some pending => simp [registers_of_pending_eq_some hpending, fault?, step, finish, hpending]
  | feed token line =>
      cases hfeed : m.feed token line with
      | error fault =>
          simp only [fault?, step, hfeed]
          rcases feed_eq_error_iff.1 hfeed with
            ⟨hpending, hfind, rfl⟩ | ⟨pending, hpending, hlit, rfl⟩
          · rw [registers_of_pending_eq_none hpending]
            exact Registers.perform_of_find?_eq_none rfl hfind
          · rw [registers_of_pending_eq_some hpending]
            exact Registers.perform_of_not_literal rfl hlit
      | ok next =>
          simp only [fault?, step, hfeed]
          rcases feed_eq_ok_iff.1 hfeed with
            ⟨i, hpending, hfind, -, hnext⟩ | ⟨pending, hpending, hlit, -, hnext⟩
          · have hstate : m.registers.state = .expectInstruction := by
              rw [registers_of_pending_eq_none hpending]
            rw [Registers.perform_of_find? hstate hfind, registers_begin hpending, hnext]
          · have hstate : m.registers.state = .expectArgument := by
              rw [registers_of_pending_eq_some hpending]
            -- The instruction that waits has been started and is not complete.
            obtain ⟨block, -, rfl, hstarted⟩ := h.exists_last hpending
            have hpos : 0 < (awaited block).remaining := Nat.sub_pos_of_lt hstarted.short
            rw [Registers.perform_of_literal hstate hlit, registers_supply hpending hpos, hnext]

/-- **The machine that works in place is at any time the token machine.** -/
theorem run_registers {catalog : Catalog} {parse : Parse catalog} (h : m.Reads parse)
    (steps : List Step) : m.registers.run steps = (m.run steps).registers := by
  induction steps generalizing m parse with
  | nil => rfl
  | cons s steps ih =>
      obtain ⟨parse', hstep⟩ := h.step s
      rw [Registers.run_cons, perform_registers h s]
      exact ih hstep

/-! ### What the registers hold -/

namespace Reads

variable {catalog : Catalog} {parse : Parse catalog}

/-- The registers of a machine between instructions. -/
theorem invariant_of_last_eq_none (h : m.Reads parse) (hwf : catalog.WellFormed)
    (hlast : parse.last = none) : m.registers.Invariant catalog := by
  have hpending : m.pending = none := by rw [h.pending_eq, hlast]; rfl
  have hrecords : m.program.records =
      parse.blocks.flatMap (Block.records catalog.wordSize) := by
    rw [h.records_eq, Parse.records, Parse.allBlocks, hlast]
    simp
  rw [registers_of_pending_eq_none hpending]
  exact
    { state_iff_remaining := by simp
      remaining_iff_current := by simp
      find?_current := by simp
      remaining_bounds := by simp
      records_eq := ⟨parse.blocks, parse.complete, Or.inl ⟨rfl, hrecords⟩⟩
      ofWidth_word := fun record hr => h.ofWidth_word hwf hr
      finish_eq := Registers.perform_finish _ }

/-- The registers of a machine that waits for operands. -/
theorem invariant_of_last_eq_some (h : m.Reads parse) (hwf : catalog.WellFormed) {block : Block}
    (hlast : parse.last = some block) : m.registers.Invariant catalog := by
  have hstarted := parse.started block hlast
  have hshort := hstarted.short
  have hpending : m.pending = some (awaited block) := by rw [h.pending_eq, hlast]; rfl
  have hremaining : ((awaited block).remaining : Int) =
      block.instruction.arity - block.operands.length := by
    simp only [awaited]
    omega
  -- Mnemonics of a well-formed catalog are not empty, so no instruction of it is the blank one.
  have hne : block.instruction ≠ .blank := by
    intro hblank
    refine hwf.mnemonic_ne_nil block.instruction (Catalog.mem_of_find? hstarted.known) ?_
    rw [hblank]
    rfl
  have hrecords : m.program.records = parse.blocks.flatMap (Block.records catalog.wordSize) ++
      Block.records catalog.wordSize ⟨block.instruction, m.startLine, block.operands⟩ := by
    rw [h.records_eq, Parse.records, Parse.allBlocks, hlast, h.startLine_eq block hlast]
    simp
  rw [registers_of_pending_eq_some hpending, hremaining]
  exact
    { state_iff_remaining := iff_of_true rfl (by simp only; omega)
      remaining_iff_current := iff_of_true (by simp only; omega) hne
      find?_current := fun _ => hstarted.known
      remaining_bounds := fun _ => by simp only [awaited]; omega
      records_eq := ⟨parse.blocks, parse.complete,
        Or.inr ⟨rfl, block.operands, by simp only [awaited]; omega, hrecords⟩⟩
      ofWidth_word := fun record hr => h.ofWidth_word hwf hr
      finish_eq := Registers.perform_finish _ }

end Reads

/-- **The state of the machine after any run**, going on behind what was refused.  What holds of the
registers at any time holds of those that were written in place; they are the registers of the token
machine, which meets the same fault at an end of the source. -/
theorem run_invariant {table : Table} {catalog : Catalog} (hbuild : table.build = .ok catalog)
    (steps : List Step) :
    let m := ({ catalog := catalog } : Machine).run steps
    let r := ({ catalog := catalog } : Registers).run steps
    r.Invariant catalog ∧ r = m.registers ∧ m.finish = (r.perform .finish).1 := by
  intro m r
  have hwf := Table.wellFormed_of_build hbuild
  obtain ⟨parse, hreads⟩ := (reads_empty catalog).run steps
  have hrun : r = m.registers := run_registers (reads_empty catalog) steps
  rw [hrun]
  refine ⟨?_, rfl, ?_⟩
  · cases hlast : parse.last with
    | none => exact hreads.invariant_of_last_eq_none hwf hlast
    | some block => exact hreads.invariant_of_last_eq_some hwf hlast
  · rw [perform_registers hreads]
    rfl

/-- A run over the built-in instruction set in which a mnemonic is refused as an operand, a literal
as a mnemonic and an end of the source while an operand is missing. -/
theorem run_invariant_builtIn :
    let steps : List Step :=
      [.feed (Bytes.ofString "1") 7, .feed (Bytes.ofString "ADD") 3, .finish,
        .feed (Bytes.ofString "SUB") (-1), .feed (Bytes.ofString "101") 0]
    let r := ({ catalog := Catalog.builtIn } : Registers).run steps
    Catalog.builtIn.toTable.build = .ok Catalog.builtIn ∧ r.state = .expectArgument ∧
      r.remaining = 1 ∧ r.Invariant Catalog.builtIn :=
  ⟨Table.build_builtIn, rfl, rfl, (run_invariant Table.build_builtIn _).1⟩

end Machine

end OnePass
