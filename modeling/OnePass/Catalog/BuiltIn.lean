import OnePass.Catalog.Basic

/-
**The built-in instruction set.**

The instruction set of the 8-bit processor: four instructions with one operand and twelve with two.
-/

set_option relaxedAutoImplicit false
set_option autoImplicit false

namespace OnePass.Catalog

/-- An instruction of the built-in set. -/
def builtInInstruction (mnemonic opcode : String) (arity : Nat) : Instruction :=
  ⟨Bytes.ofString mnemonic, Bytes.ofString opcode, arity⟩

/-- The built-in instruction set. -/
def builtIn : Catalog where
  name := Bytes.ofString "UFC 8-bit ISA"
  wordSize := 8
  instructions :=
    [ builtInInstruction "INC" "00000001" 1,
      builtInInstruction "DEC" "00000010" 1,
      builtInInstruction "NOT" "00000011" 1,
      builtInInstruction "JMP" "00000100" 1,
      builtInInstruction "ADD" "00010000" 2,
      builtInInstruction "SUB" "00100000" 2,
      builtInInstruction "MUL" "00110000" 2,
      builtInInstruction "DIV" "01000000" 2,
      builtInInstruction "MOD" "01010000" 2,
      builtInInstruction "AND" "01100000" 2,
      builtInInstruction "OR" "01110000" 2,
      builtInInstruction "XOR" "10000000" 2,
      builtInInstruction "NAND" "10010000" 2,
      builtInInstruction "NOR" "10100000" 2,
      builtInInstruction "XNOR" "10110000" 2,
      builtInInstruction "COMP" "11000000" 2 ]

end OnePass.Catalog
