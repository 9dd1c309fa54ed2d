import OnePass.Text.Bytes

/-
**Memory words.**

A word of the instruction memory is written as binary digits, the most significant first.

Main definitions:

* `OnePass.Word.trimDigits` — a text without the digits at its two ends;
* `OnePass.Word.isBinary` — a literal is a non-empty string of binary digits;
* `OnePass.Word.pad` — a literal widened with zeros on the left;
* `OnePass.Word.zero` — the word of zeros that fills unused memory;
* `OnePass.Word.value` — the number that binary digits denote.
-/

set_option relaxedAutoImplicit false
set_option autoImplicit false

namespace OnePass

/-- A word, or a literal that becomes one: its binary digits. -/
abbrev Word := Bytes

namespace Word

/-- The digit zero. -/
def digitZero : UInt8 := Bytes.ofAscii '0'

/-- The digit one. -/
def digitOne : UInt8 := Bytes.ofAscii '1'

/-- The two binary digits. -/
def isDigit (b : UInt8) : Bool :=
  b == digitZero || b == digitOne

/-- What is left of a text if digits are cut off at its end, and then at its beginning. -/
def trimDigits (s : Bytes) : Bytes :=
  (s.reverse.dropWhile isDigit).reverse.dropWhile isDigit

/-- Whether a text is a binary literal. -/
def isBinary (s : Bytes) : Bool :=
  !s.isEmpty && (trimDigits s).isEmpty

/-- A literal widened with zeros on the left; one that is wide enough stays as it is. -/
def pad (literal : Bytes) (width : Nat) : Word :=
  Bytes.padZeros width literal

/-- The word of `width` zeros. -/
def zero (width : Nat) : Word :=
  List.replicate width digitZero

/-- The word of `width` zeros, which exists unless the width is negative. -/
def zero? (width : Int) : Option Word :=
  if 0 ≤ width then some (zero width.toNat) else none

/-- The unsigned number that binary digits denote. -/
def value (s : Bytes) : Nat :=
  s.foldl (fun n b => 2 * n + if b = digitOne then 1 else 0) 0

end Word

end OnePass
