import OnePass.Text.Utf8

/-
**The characters of a YAML stream.**

A stream is UTF-8, or UTF-16 behind a byte order mark, and may hold only characters that are allowed
in YAML.  Its characters are numbered by line and column; every way to end a line that YAML folds
becomes a line feed.

Main definitions:

* `OnePass.Yaml.Problem` — why a stream is refused;
* `OnePass.Yaml.Glyph` — a character and its place;
* `OnePass.Yaml.glyphs` — **the characters of a stream**.
-/

set_option relaxedAutoImplicit false
set_option autoImplicit false

namespace OnePass.Yaml

open Bytes (ofString ofNat)

/-! ### Problems -/

/-- Why a stream is refused. -/
structure Problem where
  /-- What is wrong. -/
  text : Bytes
  /-- The line that is told, counted from one; with zero none is told. -/
  line : Nat := 0
  deriving DecidableEq, Repr

/-- What is said about a refused stream. -/
def Problem.message (problem : Problem) : Bytes :=
  ofString "yaml: "
    ++ (if problem.line = 0 then [] else ofString "line " ++ ofNat problem.line ++ ofString ": ")
    ++ problem.text

/-- A problem with the token that starts at a line counted from zero; the first line is not told. -/
def Problem.ofLine (line : Nat) (text : String) : Problem :=
  { text := ofString text, line := if line = 0 then 0 else line + 1 }

/-! ### Classes of characters -/

/-- Whether a character may stand in a stream. -/
def isAllowed (c : Char) : Bool :=
  let n := c.toNat
  n == 0x09 || n == 0x0A || n == 0x0D || (0x20 ≤ n && n ≤ 0x7E) || n == 0x85
    || (0xA0 ≤ n && n ≤ 0xD7FF) || (0xE000 ≤ n && n ≤ 0xFFFD && n != 0xFEFF) || 0x10000 ≤ n

/-- Blanks are spaces and tabs. -/
def isBlank (c : Char) : Bool :=
  c == ' ' || c == '\t'

/-- The characters that end a line. -/
def isBreak (c : Char) : Bool :=
  c == '\n' || c == '\u2028' || c == '\u2029'

/-- Letters, digits, `_` and `-`, of which names are made. -/
def isNameChar (c : Char) : Bool :=
  c.isAlphanum || c == '_' || c == '-'

/-! ### Encodings -/

/-- The 16-bit units of a text, with the bytes of a unit in the order given. -/
def units? (bigEndian : Bool) (done : List Nat) : Bytes → Option (List Nat)
  | [] => some done.reverse
  | [_] => none
  | a :: b :: rest =>
    let unit := if bigEndian then 256 * a.toNat + b.toNat else 256 * b.toNat + a.toNat
    units? bigEndian (unit :: done) rest

/-- The characters of 16-bit units: a high surrogate has to be followed by a low one. -/
def ofUnits? (done : List Char) : List Nat → Option (List Char)
  | [] => some done.reverse
  | u :: rest =>
    if u < 0xD800 ∨ 0xE000 ≤ u then ofUnits? (Char.ofNat u :: done) rest
    else if 0xDC00 ≤ u then none
    else
      match rest with
      | [] => none
      | low :: rest' =>
        if 0xDC00 ≤ low ∧ low < 0xE000 then
          ofUnits? (Char.ofNat (0x10000 + 0x400 * (u - 0xD800) + (low - 0xDC00)) :: done) rest'
        else none

/-- The characters of a stream behind its byte order mark, if it is well-formed. -/
def decode? : Bytes → Option (List Char)
  | 0xFF :: 0xFE :: rest => (units? false [] rest).bind (ofUnits? [])
  | 0xFE :: 0xFF :: rest => (units? true [] rest).bind (ofUnits? [])
  | 0xEF :: 0xBB :: 0xBF :: rest => Utf8.chars? rest
  | s => Utf8.chars? s

/-! ### Places -/

/-- A character and its place, with lines and columns counted from zero. -/
structure Glyph where
  /-- The character. -/
  char : Char
  /-- Its line. -/
  line : Nat
  /-- Its column. -/
  column : Nat
  deriving DecidableEq, Repr

/-- Numbers characters from a place on. -/
def place (done : List Glyph) (line column : Nat) : List Char → List Glyph
  | [] => done.reverse
  | '\r' :: '\n' :: rest => place (⟨'\n', line, column⟩ :: done) (line + 1) 0 rest
  | c :: rest =>
    if c = '\r' ∨ c = '\u0085' then place (⟨'\n', line, column⟩ :: done) (line + 1) 0 rest
    else if isBreak c then place (⟨c, line, column⟩ :: done) (line + 1) 0 rest
    else place (⟨c, line, column⟩ :: done) line (column + 1) rest

/-- **The characters of a stream.** -/
def glyphs (s : Bytes) : Except Problem (List Glyph) :=
  match decode? s with
  | none => .error { text := ofString "invalid octet sequence" }
  | some cs =>
    if cs.all isAllowed then .ok (place [] 0 0 cs)
    else .error { text := ofString "control characters are not allowed" }

/-! ### What comes next -/

/-- The next character. -/
def next? (gs : List Glyph) : Option Char :=
  gs.head?.map (·.char)

/-- Whether the next character is a blank. -/
def atBlank (gs : List Glyph) : Bool :=
  (next? gs).any isBlank

/-- Whether a line ends here. -/
def atLineEnd (gs : List Glyph) : Bool :=
  (next? gs).all isBreak

/-- Whether a word ends here: at a blank or at the end of a line. -/
def atGap (gs : List Glyph) : Bool :=
  (next? gs).all fun c => isBlank c || isBreak c

/-- Whether a line begins here with three times the same character and nothing else in that word. -/
def atMarker (c : Char) : List Glyph → Bool
  | a :: b :: d :: rest =>
    a.column == 0 && a.char == c && b.char == c && d.char == c && atGap rest
  | _ => false

/-- Whether a document begins or ends here. -/
def atDocumentMarker (gs : List Glyph) : Bool :=
  atMarker '-' gs || atMarker '.' gs

/-- What is left behind the blanks. -/
def skipBlanks (gs : List Glyph) : List Glyph :=
  gs.dropWhile (isBlank ·.char)

/-- What is left at the end of the line. -/
def skipLine (gs : List Glyph) : List Glyph :=
  gs.dropWhile (!isBreak ·.char)

end OnePass.Yaml
