import OnePass.Number.Binary64

/-
**Decimal notation.**

A decimal is a sign, digits with a point among them, and a power of ten.

Main definitions:

* `OnePass.Decimal` — a decimal, and `OnePass.Decimal.parse?`, which reads one;
* `OnePass.Decimal.toBinary64?` — the nearest number of 64 bits;
* `OnePass.Decimal.digits?` — the value of digits in a base.
-/

set_option relaxedAutoImplicit false
set_option autoImplicit false

namespace OnePass

/-- A mantissa times a power of ten. -/
structure Decimal where
  /-- Whether there is a minus sign. -/
  negative : Bool
  /-- All digits read as one number. -/
  mantissa : Nat
  /-- The power of ten. -/
  exponent : Int
  deriving DecidableEq, Repr

namespace Decimal

/-- The value of a digit, with letters for those above nine. -/
def digitValue (c : Char) : Nat :=
  if c.isDigit then c.toNat - '0'.toNat
  else if 'a' ≤ c ∧ c ≤ 'z' then c.toNat - 'a'.toNat + 10
  else if 'A' ≤ c ∧ c ≤ 'Z' then c.toNat - 'A'.toNat + 10
  else 36

/-- The value of digits in a base, of which there has to be at least one. -/
def digits? (base : Nat) (cs : List Char) : Option Nat :=
  if cs ≠ [] ∧ cs.all (digitValue · < base) then
    some (cs.foldl (fun n c => base * n + digitValue c) 0)
  else none

/-- A sign, if there is one, and what follows it. -/
def sign : List Char → Option Char × List Char
  | '+' :: rest => (some '+', rest)
  | '-' :: rest => (some '-', rest)
  | rest => (none, rest)

/-- The exponent at the end of a decimal. -/
def exponentPart? : List Char → Option Int
  | [] => some 0
  | c :: rest =>
    if c = 'e' ∨ c = 'E' then
      let (s, digits) := sign rest
      (digits? 10 digits).map fun n => if s = some '-' then -n else n
    else none

/-- Reads a decimal: there has to be a digit in front of the point or behind it. -/
def parse? (cs : List Char) : Option Decimal :=
  let (s, rest) := sign cs
  let whole := rest.takeWhile Char.isDigit
  let rest := rest.dropWhile Char.isDigit
  let (fraction, rest) :=
    match rest with
    | '.' :: rest => (rest.takeWhile Char.isDigit, rest.dropWhile Char.isDigit)
    | rest => ([], rest)
  match digits? 10 (whole ++ fraction), exponentPart? rest with
  | some mantissa, some exponent =>
    some ⟨s == some '-', mantissa, exponent - fraction.length⟩
  | _, _ => none

/-- The number nearest to a decimal, unless that is too large for one. -/
def toBinary64? (d : Decimal) : Option Binary64 :=
  let size := (Nat.toDigits 10 d.mantissa).length + d.exponent
  if d.mantissa = 0 ∨ size < -330 then some (.finite d.negative 0 0)
  else if 310 < size then none
  else if 0 ≤ d.exponent then
    Binary64.roundRatio? d.negative (d.mantissa * Nat.pow 10 d.exponent.toNat) 1
  else Binary64.roundRatio? d.negative d.mantissa (Nat.pow 10 (-d.exponent).toNat)

end Decimal

end OnePass
