import OnePass.Image.BoxTable
import OnePass.Image.Emitter

/-
**Program listings.**

A listing is a table with one row for every word of a program: its address, its bits, and where it
came from.  The footing tells how many words there are and how many zero words follow them.
-/

set_option relaxedAutoImplicit false
set_option autoImplicit false

namespace OnePass.Listing

open Bytes (ofString ofNat ofInt ofAscii)

/-- The row of a word. -/
def row (record : Record) (address : Nat) : List Bytes :=
  [Bytes.padZeros 3 (ofNat address), record.word, ofInt record.line, record.mnemonic,
    record.role.name]

/-- The table of a program. Line numbers stand at the right; in a table without rows all columns
count as numbers. -/
def table (program : Program) (summary : Summary) : BoxTable :=
  let text : BoxTable.Align := if program.size = 0 then .right else .left
  { title := ofString "Program Listing"
    columns :=
      [⟨ofString "ADDR", [], text⟩,
       ⟨ofString "WORD", [], text⟩,
       ⟨ofString "LINE", [], .right⟩,
       ⟨ofString "MNEMONIC", ofInt summary.words ++ ofString " WORDS", text⟩,
       ⟨ofString "ROLE", ofAscii '+' :: ofInt summary.padding ++ ofString " ZERO", text⟩]
    rows := program.records.zipIdx.map fun (record, address) => row record address }

/-- The listing of a program. -/
def render (program : Program) (summary : Summary) : Bytes :=
  (table program summary).render

end OnePass.Listing
