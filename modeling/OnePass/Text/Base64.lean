import OnePass.Text.Bytes

/-
**Base 64.**

Four characters stand for three bytes.  Line breaks do not count, and the last four characters are
filled up with equals signs.
-/

set_option relaxedAutoImplicit false
set_option autoImplicit false

namespace OnePass.Base64

/-- The six bits that a character stands for. -/
def value? (c : Char) : Option Nat :=
  if 'A' ≤ c ∧ c ≤ 'Z' then some (c.toNat - 'A'.toNat)
  else if 'a' ≤ c ∧ c ≤ 'z' then some (c.toNat - 'a'.toNat + 26)
  else if c.isDigit then some (c.toNat - '0'.toNat + 52)
  else if c = '+' then some 62
  else if c = '/' then some 63
  else none

/-- The bytes of groups of four characters, behind those already decoded, which are in reverse. -/
def groups? (done : Bytes) : List Char → Option Bytes
  | [] => some done.reverse
  | [a, b, '=', '='] => do
    let n := 64 * (← value? a) + (← value? b)
    return (done.reverse ++ [(n / 16).toUInt8])
  | [a, b, c, '='] => do
    let n := 4096 * (← value? a) + 64 * (← value? b) + (← value? c)
    return (done.reverse ++ [(n / 1024).toUInt8, (n / 4).toUInt8])
  | a :: b :: c :: d :: rest =>
    match value? a, value? b, value? c, value? d with
    | some a, some b, some c, some d =>
      let n := 262144 * a + 4096 * b + 64 * c + d
      groups? (n.toUInt8 :: (n / 256).toUInt8 :: (n / 65536).toUInt8 :: done) rest
    | _, _, _, _ => none
  | _ => none

/-- The bytes that a text stands for, if it is well-formed. -/
def decode? (cs : List Char) : Option Bytes :=
  groups? [] (cs.filter fun c => c != '\n' && c != '\r')

end OnePass.Base64
