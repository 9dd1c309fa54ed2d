import OnePass.Word

/-
**Programs.**

A program is the list of words that an assembly has emitted, each with where it came from.  Words
are only ever added at the end.

Main definitions:

* `OnePass.Role` — an opcode or an operand;
* `OnePass.Record` — a word and its origin;
* `OnePass.Program` — the records, and `OnePass.Program.records`, those in the order of emission.
-/

set_option relaxedAutoImplicit false
set_option autoImplicit false

namespace OnePass

/-- The part of an instruction that a word encodes. -/
inductive Role where
  /-- The instruction word itself. -/
  | opcode
  /-- One of the words behind it. -/
  | operand
  deriving DecidableEq, Repr

/-- The name of a role. -/
def Role.name : Role → Bytes
  | .opcode => Bytes.ofString "opcode"
  | .operand => Bytes.ofString "operand"

/-- An emitted word together with where it came from. -/
structure Record where
  /-- The word. -/
  word : Word
  /-- The number of the source line that gave rise to it. -/
  line : Int
  /-- The instruction it belongs to. -/
  mnemonic : Bytes
  /-- Its part in that instruction. -/
  role : Role
  deriving DecidableEq, Repr

/-- The words that an assembly has emitted. -/
structure Program where
  /-- The records, the last one first. -/
  reversed : List Record := []
  deriving DecidableEq, Repr

namespace Program

/-- The records in the order of emission. -/
def records (program : Program) : List Record :=
  program.reversed.reverse

/-- The number of words. -/
def size (program : Program) : Nat :=
  program.reversed.length

/-- The words in the order of emission. -/
def words (program : Program) : List Word :=
  program.records.map (·.word)

/-- A program with one more word at its end. -/
def push (program : Program) (record : Record) : Program :=
  ⟨record :: program.reversed⟩

@[simp] theorem records_push (program : Program) (record : Record) :
    (program.push record).records = program.records ++ [record] := by
  simp [push, records]

@[simp] theorem size_push (program : Program) (record : Record) :
    (program.push record).size = program.size + 1 := rfl

@[simp] theorem length_records (program : Program) : program.records.length = program.size := by
  simp [records, size]

@[simp] theorem words_push (program : Program) (record : Record) :
    (program.push record).words = program.words ++ [record.word] := by
  simp [words]

@[simp] theorem length_words (program : Program) : program.words.length = program.size := by
  simp [words]

end Program

end OnePass
