import OnePass.Number.Decimal

/-
**Timestamps.**

A timestamp is a date, or a date and a time of the day.  Behind a `T` the time is followed by a
zone; behind blanks it is not.
-/

set_option relaxedAutoImplicit false
set_option autoImplicit false

namespace OnePass.Yaml.Timestamp

/-- A number of one or two digits, and what follows it. -/
def number? : List Char → Option (Nat × List Char)
  | a :: b :: rest =>
    if !a.isDigit then none
    else if b.isDigit then some (10 * Decimal.digitValue a + Decimal.digitValue b, rest)
    else some (Decimal.digitValue a, b :: rest)
  | [a] => if a.isDigit then some (Decimal.digitValue a, []) else none
  | [] => none

/-- What follows a character, if the text begins with it. -/
def after? (c : Char) : List Char → Option (List Char)
  | [] => none
  | d :: rest => if c = d then some rest else none

/-- The number of days in a month. -/
def daysIn (year month : Nat) : Nat :=
  if month = 2 then
    if year % 4 = 0 ∧ (year % 100 ≠ 0 ∨ year % 400 = 0) then 29 else 28
  else if month = 4 ∨ month = 6 ∨ month = 9 ∨ month = 11 then 30
  else 31

/-- What follows a date that exists. -/
def date? (cs : List Char) : Option (List Char) := do
  let year ← Decimal.digits? 10 (cs.takeWhile Char.isDigit)
  let (month, rest) ← number? (← after? '-' (cs.dropWhile Char.isDigit))
  let (day, rest) ← number? (← after? '-' rest)
  if (cs.takeWhile Char.isDigit).length = 4 ∧ 1 ≤ month ∧ month ≤ 12 ∧ 1 ≤ day
      ∧ day ≤ daysIn year month then
    return rest
  else none

/-- What follows the fraction of a second, if there is one. -/
def skipFraction : List Char → List Char
  | p :: d :: rest =>
    if (p = '.' ∨ p = ',') ∧ d.isDigit then rest.dropWhile Char.isDigit else p :: d :: rest
  | rest => rest

/-- What follows a time of the day. -/
def time? (cs : List Char) : Option (List Char) := do
  let (hour, rest) ← number? cs
  let (minute, rest) ← number? (← after? ':' rest)
  let (second, rest) ← number? (← after? ':' rest)
  if hour < 24 ∧ minute < 60 ∧ second < 60 then return skipFraction rest else none

/-- Whether a text is a time zone. -/
def isZone : List Char → Bool
  | ['Z'] => true
  | [s, h, h', ':', m, m'] =>
    (s == '+' || s == '-')
      && (Decimal.digits? 10 [h, h']).any (· ≤ 24) && (Decimal.digits? 10 [m, m']).any (· ≤ 60)
  | _ => false

/-- Whether a text is a timestamp. -/
def isTimestamp (cs : List Char) : Bool :=
  match date? cs with
  | none => false
  | some [] => true
  | some (c :: rest) =>
    if c = 'T' ∨ c = 't' then (time? rest).any isZone
    else if c = ' ' then time? (rest.dropWhile (· == ' ')) == some []
    else false

end OnePass.Yaml.Timestamp
