import OnePass.Catalog.Basic
import OnePass.Text.Quoted
import OnePass.Word

/-
**Instruction tables.**

A table is what a user writes down: a name, a word size and a list of entries, none of which can be
trusted.  Building a catalog from a table checks the word size and then the entries one by one; the
first entry that does not fit behind those in front of it is reported with its number.

Main definitions:

* `OnePass.Table` — a table as it was written;
* `OnePass.Table.Error` — why a table is refused;
* `OnePass.Catalog.register` — one more entry;
* `OnePass.Table.build` — **the catalog of a table**.
-/

set_option relaxedAutoImplicit false
set_option autoImplicit false

namespace OnePass

open Bytes (ofString ofNat ofInt)

namespace Table

/-- One entry of a table. -/
structure Entry where
  /-- The name of the instruction. -/
  mnemonic : Bytes := []
  /-- The bits of the instruction word. -/
  opcode : Bytes := []
  /-- The number of operands. -/
  args : Int := 0
  deriving DecidableEq, Repr

end Table

/-- A table as it was written. -/
structure Table where
  /-- The name of the instruction set. -/
  name : Bytes := []
  /-- The number of bits in a word; zero asks for the usual size. -/
  wordSize : Int := 0
  /-- The instructions. -/
  entries : List Table.Entry := []
  deriving DecidableEq, Repr

namespace Table

/-! ### Why a table is refused -/

/-- Why an entry is refused. -/
inductive EntryError where
  /-- The entry has no mnemonic. -/
  | missingMnemonic
  /-- No source could ever spell the mnemonic. -/
  | unwritableMnemonic (mnemonic : Bytes)
  /-- An entry in front of this one has the same mnemonic. -/
  | duplicateMnemonic (mnemonic : Bytes)
  /-- The opcode is not a word. -/
  | badOpcode (opcode mnemonic : Bytes) (wordSize : Nat)
  /-- An instruction cannot take fewer than no operands. -/
  | negativeArity (mnemonic : Bytes)
  deriving DecidableEq, Repr

/-- Why a table is refused. -/
inductive Error where
  /-- Words of this size are not supported. -/
  | wordSizeOutOfRange (size : Int)
  /-- The table has no entries. -/
  | noInstructions
  /-- The entry with this number, counted from one, is refused. -/
  | badEntry (number : Nat) (error : EntryError)
  deriving DecidableEq, Repr

/-- What is said about a refused entry. -/
def EntryError.message : EntryError → Bytes
  | .missingMnemonic => ofString "missing mnemonic"
  | .unwritableMnemonic mnemonic =>
    ofString "mnemonic " ++ Text.quote mnemonic
      ++ ofString " contains a blank or comment character"
  | .duplicateMnemonic mnemonic => ofString "duplicate mnemonic " ++ mnemonic
  | .badOpcode opcode mnemonic wordSize =>
    ofString "opcode " ++ Text.quote opcode ++ ofString " of " ++ mnemonic
      ++ ofString " is not a " ++ ofNat wordSize ++ ofString "-bit binary string"
  | .negativeArity mnemonic => ofString "negative argument count for " ++ mnemonic

/-- The largest word size. -/
def maxWordSize : Nat := 64

/-- What is said about a refused table. -/
def Error.message : Error → Bytes
  | .wordSizeOutOfRange size =>
    ofString "word size " ++ ofInt size ++ ofString " out of range 1.." ++ ofNat maxWordSize
  | .noInstructions => ofString "instruction table has no instructions"
  | .badEntry number error =>
    ofString "instruction " ++ ofNat number ++ ofString ": " ++ error.message

/-! ### From a table to a catalog -/

/-- A byte that the sanitizer takes out of every token: a space, a tab or the comment marker. -/
def isLayout (b : UInt8) : Bool :=
  b == Bytes.ofAscii ' ' || b == Bytes.ofAscii '\t' || b == Bytes.ofAscii ';'

end Table

/-- A catalog with one more instruction, if the entry fits behind those already there. -/
def Catalog.register (catalog : Catalog) (entry : Table.Entry) : Except Table.EntryError Catalog :=
  if entry.mnemonic = [] then
    .error .missingMnemonic
  else if entry.mnemonic.any Table.isLayout then
    .error (.unwritableMnemonic entry.mnemonic)
  else if catalog.knows entry.mnemonic then
    .error (.duplicateMnemonic entry.mnemonic)
  else if entry.opcode.length ≠ catalog.wordSize ∨ Word.trimDigits entry.opcode ≠ [] then
    .error (.badOpcode entry.opcode entry.mnemonic catalog.wordSize)
  else if entry.args < 0 then
    .error (.negativeArity entry.mnemonic)
  else
    .ok { catalog with
      instructions := catalog.instructions ++ [⟨entry.mnemonic, entry.opcode, entry.args.toNat⟩] }

namespace Table

/-- The usual word size. -/
def defaultWordSize : Nat := 8

/-- The word size that a table asks for. -/
def effectiveWordSize (table : Table) : Int :=
  if table.wordSize = 0 then defaultWordSize else table.wordSize

/-- A catalog with further instructions, the first of which has the given number. -/
def registerAll (catalog : Catalog) (number : Nat) : List Entry → Except Error Catalog
  | [] => .ok catalog
  | entry :: entries =>
    match catalog.register entry with
    | .error error => .error (.badEntry number error)
    | .ok catalog' => registerAll catalog' (number + 1) entries

/-- **The catalog of a table.** -/
def build (table : Table) : Except Error Catalog :=
  let size := table.effectiveWordSize
  if size < 0 ∨ maxWordSize < size then .error (.wordSizeOutOfRange size)
  else if table.entries = [] then .error .noInstructions
  else registerAll ⟨table.name, size.toNat, []⟩ 1 table.entries

end Table

end OnePass
