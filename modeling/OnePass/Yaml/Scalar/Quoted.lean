import OnePass.Yaml.Scalar.Gap

/-
**Quoted scalars.**

Between single quotes a quote is written twice and all else stands for itself.  Between double
quotes a backslash begins an escape: a letter for a control character, a code point in hexadecimal
digits, or the end of the line, which then does not count.

Main definitions:

* `OnePass.Yaml.readSingleQuoted`, `OnePass.Yaml.readDoubleQuoted` — the scalar behind an opening
  quote.
-/

set_option relaxedAutoImplicit false
set_option autoImplicit false

namespace OnePass.Yaml

/-- A quoted scalar that has no closing quote. -/
def unclosed (start : Nat) : Problem :=
  Problem.ofLine start "found unexpected end of stream"

/-- A document marker inside of quotes. -/
def interrupted (start : Nat) : Problem :=
  Problem.ofLine start "found unexpected document indicator"

/-! ### Single quotes -/

/-- The rest of a scalar in single quotes. -/
def readSingleQuotedFrom (start : Nat) (done : List Char) (gap : Gap) :
    List Glyph → Except Problem (List Char × List Glyph)
  | [] => .error (unclosed start)
  | [g] =>
    if g.char = '\'' then .ok ((gap.fill ++ done).reverse, []) else .error (unclosed start)
  | g :: g' :: rest =>
    if isBlank g.char then readSingleQuotedFrom start done (gap.addBlank g.char) (g' :: rest)
    else if isBreak g.char then readSingleQuotedFrom start done (gap.addBreak g.char) (g' :: rest)
    else if atDocumentMarker (g :: g' :: rest) then .error (interrupted start)
    else if g.char = '\'' then
      if g'.char = '\'' then
        readSingleQuotedFrom start ('\'' :: (gap.fill ++ done)) Gap.none rest
      else .ok ((gap.fill ++ done).reverse, g' :: rest)
    else readSingleQuotedFrom start (g.char :: (gap.fill ++ done)) Gap.none (g' :: rest)

/-- A scalar in single quotes, behind the opening one. -/
def readSingleQuoted (start : Nat) (gs : List Glyph) : Except Problem (List Char × List Glyph) :=
  readSingleQuotedFrom start [] Gap.none gs

/-! ### Double quotes -/

/-- The character that a letter stands for behind a backslash. -/
def escaped? : Char → Option Char
  | '0' => some '\x00'
  | 'a' => some '\x07'
  | 'b' => some '\x08'
  | 't' => some '\t'
  | '\t' => some '\t'
  | 'n' => some '\n'
  | 'v' => some '\x0b'
  | 'f' => some '\x0c'
  | 'r' => some '\r'
  | 'e' => some '\x1b'
  | ' ' => some ' '
  | '"' => some '"'
  | '\'' => some '\''
  | '\\' => some '\\'
  | 'N' => some '\u0085'
  | '_' => some '\u00a0'
  | 'L' => some '\u2028'
  | 'P' => some '\u2029'
  | _ => none

/-- The number of hexadecimal digits that a letter asks for behind a backslash. -/
def codeLength? : Char → Option Nat
  | 'x' => some 2
  | 'u' => some 4
  | 'U' => some 8
  | _ => none

/-- The value of a hexadecimal digit. -/
def hexDigit? (c : Char) : Option Nat :=
  if c.isDigit then some (c.toNat - '0'.toNat)
  else if 'a' ≤ c ∧ c ≤ 'f' then some (c.toNat - 'a'.toNat + 10)
  else if 'A' ≤ c ∧ c ≤ 'F' then some (c.toNat - 'A'.toNat + 10)
  else none

/-- The character with a code point, if there is one. -/
def charOfCode? (n : Nat) : Option Char :=
  if n.isValidChar then some (Char.ofNat n) else none

/-- What a reader between double quotes is in the middle of. -/
inductive EscapeMode where
  /-- Nothing but text. -/
  | text
  /-- A backslash has been read. -/
  | backslash
  /-- Hexadecimal digits are missing; those read so far have the given value. -/
  | code (missing value : Nat)
  deriving DecidableEq, Repr

/-- The rest of a scalar in double quotes. -/
def readDoubleQuotedFrom (start : Nat) (done : List Char) (gap : Gap) (mode : EscapeMode) :
    List Glyph → Except Problem (List Char × List Glyph)
  | [] => .error (unclosed start)
  | g :: rest =>
    match mode with
    | .backslash =>
      if isBreak g.char then
        readDoubleQuotedFrom start (gap.fill ++ done) (.breaks none []) .text rest
      else
        match escaped? g.char, codeLength? g.char with
        | some c, _ => readDoubleQuotedFrom start (c :: (gap.fill ++ done)) Gap.none .text rest
        | none, some n =>
          readDoubleQuotedFrom start (gap.fill ++ done) Gap.none (.code n 0) rest
        | none, none => .error (Problem.ofLine start "found unknown escape character")
    | .code missing value =>
      match hexDigit? g.char with
      | none => .error (Problem.ofLine start "did not find expected hexdecimal number")
      | some digit =>
        let value := 16 * value + digit
        if 1 < missing then readDoubleQuotedFrom start done gap (.code (missing - 1) value) rest
        else
          match charOfCode? value with
          | some c => readDoubleQuotedFrom start (c :: done) Gap.none .text rest
          | none =>
            .error (Problem.ofLine start "found invalid Unicode character escape code")
    | .text =>
      if isBlank g.char then readDoubleQuotedFrom start done (gap.addBlank g.char) .text rest
      else if isBreak g.char then
        readDoubleQuotedFrom start done (gap.addBreak g.char) .text rest
      else if atDocumentMarker (g :: rest) then .error (interrupted start)
      else if g.char = '"' then .ok ((gap.fill ++ done).reverse, rest)
      else if g.char = '\\' then readDoubleQuotedFrom start done gap .backslash rest
      else readDoubleQuotedFrom start (g.char :: (gap.fill ++ done)) Gap.none .text rest

/-- A scalar in double quotes, behind the opening one. -/
def readDoubleQuoted (start : Nat) (gs : List Glyph) : Except Problem (List Char × List Glyph) :=
  readDoubleQuotedFrom start [] Gap.none .text gs

end OnePass.Yaml
