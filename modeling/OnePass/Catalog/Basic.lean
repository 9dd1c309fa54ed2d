import OnePass.Text.Bytes

/-
**Instruction catalogs.**

A catalog says how wide a memory word is and how every instruction is encoded: by an opcode of that
width, followed by as many operand words as its arity says.

Main definitions:

* `OnePass.Instruction` — a mnemonic, its opcode and its arity;
* `OnePass.Catalog` — the instructions of a processor;
* `OnePass.Catalog.find?` — the encoding of a mnemonic, letter case included;
* `OnePass.Catalog.mnemonics` — all mnemonics in lexical order.
-/

set_option relaxedAutoImplicit false
set_option autoImplicit false

namespace OnePass

/-- How one mnemonic is encoded. -/
structure Instruction where
  /-- The name by which a source asks for the instruction. -/
  mnemonic : Bytes
  /-- The bits of the instruction word, the most significant first. -/
  opcode : Bytes
  /-- The number of operand words behind the opcode. -/
  arity : Nat
  deriving DecidableEq, Repr

/-- The instructions of a processor, in the order of their table. -/
structure Catalog where
  /-- The name of the instruction set. -/
  name : Bytes
  /-- The number of bits in a word. -/
  wordSize : Nat
  /-- The instructions. -/
  instructions : List Instruction
  deriving DecidableEq, Repr

namespace Catalog

/-- The encoding of a mnemonic. -/
def find? (catalog : Catalog) (token : Bytes) : Option Instruction :=
  catalog.instructions.find? (·.mnemonic == token)

/-- Whether a token is a mnemonic. -/
def knows (catalog : Catalog) (token : Bytes) : Bool :=
  catalog.instructions.any (·.mnemonic == token)

/-- The number of instructions. -/
def size (catalog : Catalog) : Nat :=
  catalog.instructions.length

/-- All mnemonics in lexical order. -/
def mnemonics (catalog : Catalog) : List Bytes :=
  (catalog.instructions.map (·.mnemonic)).mergeSort Bytes.le

/-- All instructions in the lexical order of their mnemonics. -/
def sorted (catalog : Catalog) : List Instruction :=
  catalog.mnemonics.filterMap catalog.find?

end Catalog

end OnePass
