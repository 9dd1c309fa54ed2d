/-
**Numbers of 64 bits.**

A floating-point number of 64 bits has a significand of 53 bits.  A ratio of naturals is rounded to
the nearest such number, and to the one with an even significand if it lies half way between two.

Main definitions:

* `OnePass.Binary64` — the numbers, with infinities and the one that is no number;
* `OnePass.Binary64.roundRatio?` — **the nearest number**, unless it is too large;
* `OnePass.Binary64.truncate?` — a number without its fraction.
-/

set_option relaxedAutoImplicit false
set_option autoImplicit false

namespace OnePass

/-- A floating-point number of 64 bits. -/
inductive Binary64 where
  /-- No number. -/
  | nan
  /-- An infinity. -/
  | infinity (negative : Bool)
  /-- The significand times two to the exponent. -/
  | finite (negative : Bool) (significand : Nat) (exponent : Int)
  deriving DecidableEq, Repr

namespace Binary64

/-- A power of two. -/
def twoTo (n : Nat) : Nat :=
  Nat.pow 2 n

/-- Multiplies a ratio by two to the power of `-e`. -/
def scale (num den : Nat) (e : Int) : Nat × Nat :=
  if 0 ≤ e then (num, den * twoTo e.toNat) else (num * twoTo (-e).toNat, den)

/-- The exponent at which a positive ratio has a significand of 53 bits, unless the ratio is too
small for that many. -/
def exponentFor (num den : Nat) : Int :=
  let e : Int := (num.log2 : Int) - den.log2 - 52
  let (n, d) := scale num den e
  max (if n / d < twoTo 52 then e - 1 else e) (-1074)

/-- The quotient rounded to the nearest natural, and to the even one of two. -/
def roundDiv (n d : Nat) : Nat :=
  let q := n / d
  let r := n % d
  if d < 2 * r ∨ (d = 2 * r ∧ q % 2 = 1) then q + 1 else q

/-- **The number nearest to a ratio**, unless that is too large for one. -/
def roundRatio? (negative : Bool) (num den : Nat) : Option Binary64 :=
  if num = 0 then some (.finite negative 0 0)
  else
    let e := exponentFor num den
    let (n, d) := scale num den e
    let significand := roundDiv n d
    if 0 ≤ e ∧ twoTo 1024 ≤ significand * twoTo e.toNat then none
    else some (.finite negative significand e)

/-- A finite number without its fraction. -/
def truncate? : Binary64 → Option Int
  | .finite negative significand exponent =>
    let magnitude : Nat :=
      if 0 ≤ exponent then significand * twoTo exponent.toNat
      else significand / twoTo (-exponent).toNat
    some (if negative then -magnitude else magnitude)
  | _ => none

end Binary64

end OnePass
