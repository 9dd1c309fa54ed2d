import OnePass.Text.Base64
import OnePass.Yaml.Document
import OnePass.Yaml.Timestamp

/-
**The values of scalars.**

A plain scalar without a tag is resolved by its look: words for nothing and for truth values,
numbers in several notations, timestamps; everything else is a text.  A tag of YAML itself has to
agree with the look, except that any scalar can be tagged as a text; a tag of another kind makes any
scalar a text.

Main definitions:

* `OnePass.Yaml.Value` — what a scalar stands for;
* `OnePass.Yaml.look` — the tag and the value by the look of a scalar;
* `OnePass.Yaml.Scalar.resolve` — **the tag and the value of a scalar**.
-/

set_option relaxedAutoImplicit false
set_option autoImplicit false

namespace OnePass.Yaml

open Bytes (ofString)

/-- What a scalar stands for. -/
inductive Value where
  /-- Nothing. -/
  | null
  /-- A truth value. -/
  | bool
  /-- An integer. -/
  | int (n : Int)
  /-- A floating-point number. -/
  | float (x : Binary64)
  /-- A point in time. -/
  | timestamp
  /-- A text. -/
  | text (s : Bytes)
  deriving DecidableEq, Repr

/-! ### Tags of YAML itself -/

/-- The tag of texts. -/
def textTag : Bytes := ofString "!!str"

/-- The tag of texts in base 64. -/
def binaryTag : Bytes := ofString "!!binary"

/-- The tag of nothing. -/
def nullTag : Bytes := ofString "!!null"

/-- The tag of truth values. -/
def boolTag : Bytes := ofString "!!bool"

/-- The tag of integers. -/
def intTag : Bytes := ofString "!!int"

/-- The tag of floating-point numbers. -/
def floatTag : Bytes := ofString "!!float"

/-- The tag of points in time. -/
def timestampTag : Bytes := ofString "!!timestamp"

/-- The tag of the key that merges mappings. -/
def mergeTag : Bytes := ofString "!!merge"

/-- The tag of sequences. -/
def sequenceTag : Bytes := ofString "!!seq"

/-- The tag of mappings. -/
def mappingTag : Bytes := ofString "!!map"

/-- The tags that have to agree with the look of a scalar. -/
def lookTags : List Bytes :=
  [boolTag, intTag, floatTag, nullTag, timestampTag]

/-! ### Words and numbers -/

/-- The words with a meaning of their own. -/
def word? (cs : List Char) : Option (Bytes × Value) :=
  let s := String.ofList cs
  if ["true", "True", "TRUE", "false", "False", "FALSE"].contains s then some (boolTag, .bool)
  else if ["", "~", "null", "Null", "NULL"].contains s then some (nullTag, .null)
  else if [".nan", ".NaN", ".NAN"].contains s then some (floatTag, .float .nan)
  else if [".inf", ".Inf", ".INF", "+.inf", "+.Inf", "+.INF"].contains s then
    some (floatTag, .float (.infinity false))
  else if ["-.inf", "-.Inf", "-.INF"].contains s then some (floatTag, .float (.infinity true))
  else none

/-- The digits of an integer without its sign, and their base: `0x`, `0o`, `0b` and `0` in front of
further digits tell another base than ten. -/
def prefixedDigits? : List Char → Option Nat
  | '0' :: c :: d :: rest =>
    if c = 'x' ∨ c = 'X' then Decimal.digits? 16 (d :: rest)
    else if c = 'o' ∨ c = 'O' then Decimal.digits? 8 (d :: rest)
    else if c = 'b' ∨ c = 'B' then Decimal.digits? 2 (d :: rest)
    else Decimal.digits? 8 (c :: d :: rest)
  | ['0', c] => Decimal.digits? 8 [c]
  | cs => Decimal.digits? 10 cs

/-- The least integer of 64 bits with a sign. -/
def leastSigned : Int := -0x8000000000000000

/-- The first natural that does not fit in 64 bits. -/
def unsignedLimit : Nat := 0x10000000000000000

/-- Whether an integer fits in 64 bits with a sign. -/
def fitsSigned (n : Int) : Bool :=
  leastSigned ≤ n && n < -leastSigned

/-- A number with a sign in front of its digits, if there is one. -/
def signed (sign : Option Char) (n : Nat) : Int :=
  if sign = some '-' then -n else n

/-- An integer of 64 bits, with a sign or, if none is written, without one. -/
def integer? (cs : List Char) : Option Int := do
  let (sign, digits) := Decimal.sign cs
  let n ← prefixedDigits? digits
  if fitsSigned (signed sign n) ∨ (sign = none ∧ n < unsignedLimit) then return signed sign n
  else none

/-- An integer whose sign stands behind the marker of its base. -/
def lateSigned? (cs : List Char) : Option Int := do
  let (base, rest) ←
    match cs with
    | '0' :: 'b' :: rest => some (2, rest)
    | '0' :: 'o' :: rest => some (8, rest)
    | _ => none
  let (sign, digits) := Decimal.sign rest
  let n := signed sign (← Decimal.digits? base digits)
  if fitsSigned n then return n else none

/-- A number of any kind. -/
def number? (cs : List Char) : Option (Bytes × Value) :=
  match integer? cs with
  | some n => some (intTag, .int n)
  | none =>
    match (Decimal.parse? cs).bind Decimal.toBinary64? with
    | some x => some (floatTag, .float x)
    | none => (lateSigned? cs).map fun n => (intTag, .int n)

/-- Whether every underscore stands between two digits. -/
def underscoresFit (afterDigit : Bool) : List Char → Bool
  | [] => true
  | '_' :: rest => afterDigit && rest.head?.any Char.isDigit && underscoresFit false rest
  | c :: rest => underscoresFit c.isDigit rest

/-- A text without its underscores. -/
def dropUnderscores (cs : List Char) : List Char :=
  cs.filter (· != '_')

/-- A number that begins with its point. -/
def pointNumber? (cs : List Char) : Option (Bytes × Value) :=
  if underscoresFit false cs then
    ((Decimal.parse? (dropUnderscores cs)).bind Decimal.toBinary64?).map fun x =>
      (floatTag, .float x)
  else none

/-! ### Resolution -/

/-- Whether the first character leaves open that a scalar is anything but a text. -/
def mayBeWord (cs : List Char) : Bool :=
  match cs with
  | [] => true
  | c :: _ => "yYnNtTfFoO~.+-0123456789".toList.contains c

/-- The tag and the value of a plain scalar by its look. -/
def look (timestamps : Bool) (cs : List Char) : Bytes × Value :=
  let asText : Bytes × Value := (textTag, .text (Utf8.encode cs))
  if !mayBeWord cs then asText
  else
    match word? cs with
    | some result => result
    | none =>
      match cs with
      | [] => asText
      | c :: _ =>
        if c = '.' then (pointNumber? cs).getD asText
        else if c.isDigit ∨ c = '+' ∨ c = '-' then
          if timestamps ∧ Timestamp.isTimestamp cs then (timestampTag, .timestamp)
          else (number? (dropUnderscores cs)).getD asText
        else asText

/-- A tag that does not agree with the look of a scalar. -/
def mismatch (found : Bytes) (cs : List Char) (tag : Bytes) : Problem :=
  { text := ofString "cannot decode " ++ found ++ ofString " \x60" ++ Utf8.encode cs
      ++ ofString "\x60 as a " ++ tag }

/-- An integer as a floating-point number, if it fits in 64 bits with a sign. -/
def widen? (n : Int) : Option Binary64 :=
  if fitsSigned n then Binary64.roundRatio? (n < 0) n.natAbs 1 else none

/-- The value of a scalar with a tag that has to agree with its look. An integer may be tagged as a
floating-point number. -/
def lookAs (tag : Bytes) (cs : List Char) : Except Problem (Bytes × Value) :=
  match look (tag == timestampTag) cs with
  | (found, value) =>
    if found = tag then .ok (found, value)
    else
      match value with
      | .int n =>
        match if tag = floatTag then widen? n else none with
        | some x => .ok (floatTag, .float x)
        | none => .error (mismatch found cs tag)
      | _ => .error (mismatch found cs tag)

/-- **The tag and the value of a scalar.** -/
def resolve (tag : Option Bytes) (plain : Bool) (cs : List Char) :
    Except Problem (Bytes × Value) :=
  match tag with
  | none =>
    if !plain then .ok (textTag, .text (Utf8.encode cs))
    else if cs = "<<".toList then .ok (mergeTag, .text (Utf8.encode cs))
    else .ok (look true cs)
  | some tag =>
    if lookTags.contains tag then lookAs tag cs
    else if tag = binaryTag then
      match Base64.decode? cs with
      | some s => .ok (tag, .text s)
      | none => .error { text := ofString "!!binary value contains invalid base64 data" }
    else .ok (tag, .text (Utf8.encode cs))

end OnePass.Yaml
