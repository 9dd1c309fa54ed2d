import OnePass.Catalog.Basic
import OnePass.Fault
import OnePass.Program

/-
**The token machine.**

The machine reads one token at a time.  It either stands between instructions, and then a token has
to be a mnemonic, or waits for the operands of an instruction, and then a token has to be a binary
literal that fits in a word.  Which of the two is decided by the machine alone, never by the token.
An accepted token emits exactly one word; a refused token changes nothing.

Main definitions:

* `OnePass.Machine` — the machine with the program it has emitted;
* `OnePass.Machine.feed` — **one token**;
* `OnePass.Machine.finish` — the fault of a source that ends here, if it does not end well.
-/

set_option relaxedAutoImplicit false
set_option autoImplicit false

namespace OnePass

/-- An instruction that still waits for operands. -/
structure Pending where
  /-- The instruction. -/
  instruction : Instruction
  /-- The number of operands that are missing. -/
  remaining : Nat
  deriving DecidableEq, Repr

/-- The machine that turns tokens into words. -/
structure Machine where
  /-- The instructions that the machine knows. -/
  catalog : Catalog
  /-- The instruction that waits for operands; without one the machine is between instructions. -/
  pending : Option Pending := none
  /-- The line of the last instruction that had to wait for operands. -/
  startLine : Int := 0
  /-- The words emitted so far. -/
  program : Program := {}
  deriving DecidableEq, Repr

namespace Machine

/-- A token where a mnemonic is due. -/
def feedMnemonic (m : Machine) (token : Bytes) (line : Int) : Except Fault (Record × Machine) :=
  match m.catalog.find? token with
  | none => .error (.unknownCommand line token)
  | some instruction =>
    let record : Record := ⟨instruction.opcode, line, instruction.mnemonic, .opcode⟩
    let m' := { m with program := m.program.push record }
    if instruction.arity = 0 then .ok (record, m')
    else
      .ok (record, { m' with
        pending := some ⟨instruction, instruction.arity⟩
        startLine := line })

/-- A token where an operand is due. -/
def feedOperand (m : Machine) (pending : Pending) (token : Bytes) (line : Int) :
    Except Fault (Record × Machine) :=
  let width := m.catalog.wordSize
  let mnemonic := pending.instruction.mnemonic
  if Word.isBinary token ∧ token.length ≤ width then
    let record : Record := ⟨Word.pad token width, line, mnemonic, .operand⟩
    let left := pending.remaining - 1
    .ok (record, { m with
      program := m.program.push record
      pending := if left = 0 then none else some { pending with remaining := left } })
  else .error (.invalidArgument line mnemonic token width)

/-- **One token**, found at the given line: the word it emits and the machine behind it. -/
def feed (m : Machine) (token : Bytes) (line : Int) : Except Fault (Record × Machine) :=
  match m.pending with
  | none => m.feedMnemonic token line
  | some pending => m.feedOperand pending token line

/-- The fault of a source that ends here, which is one if an instruction still waits. -/
def finish (m : Machine) : Option Fault :=
  m.pending.map fun pending =>
    .unexpectedEnd pending.instruction.mnemonic m.startLine pending.remaining

end Machine

end OnePass
