/-
**Byte strings.**

Every text that enters or leaves the assembler is a string of bytes.  Most texts are UTF-8, but
nothing here assumes it: a source line, a mnemonic or a path may hold any bytes at all, and lengths
are always counted in bytes.

Main definitions:

* `OnePass.Bytes` — the type of texts;
* `OnePass.Bytes.ofString` — the UTF-8 bytes of a literal;
* `OnePass.Bytes.ofNat`, `OnePass.Bytes.ofInt` — decimal notation;
* `OnePass.Bytes.splitOn` — the parts between the occurrences of a separator;
* `OnePass.Bytes.le` — the lexical order by which mnemonics are sorted.
-/

set_option relaxedAutoImplicit false
set_option autoImplicit false

namespace OnePass

/-- A text is the list of its bytes. -/
abbrev Bytes := List UInt8

namespace Bytes

/-! ### Literals and numbers -/

/-- The UTF-8 bytes of a literal. -/
def ofString (s : String) : Bytes :=
  s.toList.flatMap String.utf8EncodeChar

/-- The byte of an ASCII character. -/
def ofAscii (c : Char) : UInt8 :=
  c.toNat.toUInt8

/-- Decimal notation without leading zeros. -/
def ofNat (n : Nat) : Bytes :=
  (Nat.toDigits 10 n).map ofAscii

/-- Decimal notation, with a minus sign in front of a negative number. -/
def ofInt : Int → Bytes
  | .ofNat n => ofNat n
  | .negSucc n => ofAscii '-' :: ofNat (n + 1)

@[simp] theorem ofInt_natCast (n : Nat) : ofInt (n : Int) = ofNat n := rfl

/-- Zeros in front of a text that is shorter than `width`; a text at least as long stays as it is.
-/
def padZeros (width : Nat) (s : Bytes) : Bytes :=
  List.replicate (width - s.length) (ofAscii '0') ++ s

/-- Hexadecimal notation in lower case, with at least `width` digits. -/
def hex (width n : Nat) : Bytes :=
  padZeros width ((Nat.toDigits 16 n).map ofAscii)

/-! ### Parts of a text -/

/-- The line feed. -/
def newline : UInt8 := 0x0A

/-- The carriage return. -/
def carriageReturn : UInt8 := 0x0D

/-- The parts between the occurrences of `sep`: one more than there are occurrences. -/
def splitOn (sep : UInt8) (s : Bytes) : List Bytes :=
  s.foldr step [[]]
where
  /-- Puts one more byte in front of the parts found so far. -/
  step (b : UInt8) : List Bytes → List Bytes
    | [] => [[b]]
    | part :: parts => if b = sep then [] :: part :: parts else (b :: part) :: parts

/-- The lines of an output: the text split at every line feed. -/
def lines (s : Bytes) : List Bytes :=
  splitOn newline s

/-- The texts one after another, with `sep` between neighbours. -/
def join (sep : Bytes) (parts : List Bytes) : Bytes :=
  (parts.intersperse sep).flatten

/-! ### Order -/

/-- The lexical order of byte strings. -/
def le : Bytes → Bytes → Bool
  | [], _ => true
  | _ :: _, [] => false
  | a :: s, b :: t => a < b || (a == b && le s t)

end Bytes

end OnePass
