import OnePass.Text.Ranges

/-
**White space.**

The characters with the Unicode property of white space.
-/

set_option relaxedAutoImplicit false
set_option autoImplicit false

namespace OnePass.Text

/-- The code points of white space. -/
def spaceRanges : Ranges where
  ranges :=
    [(0x9, 0xD), (0x20, 0x20), (0x85, 0x85), (0xA0, 0xA0), (0x1680, 0x1680), (0x2000, 0x200A),
     (0x2028, 0x2029), (0x202F, 0x202F), (0x205F, 0x205F), (0x3000, 0x3000)]
  sorted := by decide +kernel

/-- Whether a character is white space. -/
def isSpace (c : Char) : Bool :=
  spaceRanges.contains c.toNat

end OnePass.Text
