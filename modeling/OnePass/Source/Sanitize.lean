import OnePass.Text.Utf8

/-
**From a raw source line to its token.**

A line carries at most one token.  A comment runs from the first `;` to the end of the line, and
spaces and tabs mean nothing anywhere, not even inside a token: what is left of a line after both
are gone is its token, and a line with nothing left is blank.

Main definitions:

* `OnePass.Source.stripComment` — the part of a line in front of its comment;
* `OnePass.Source.stripBlanks` — a line without spaces and tabs, read as UTF-8;
* `OnePass.Source.sanitize` — **the token of a line**.
-/

set_option relaxedAutoImplicit false
set_option autoImplicit false

namespace OnePass.Source

open Utf8 (Piece)

/-- The byte that starts a comment. -/
def commentMarker : UInt8 := Bytes.ofAscii ';'

/-- The part of a line in front of its comment. -/
def stripComment (line : Bytes) : Bytes :=
  line.takeWhile (· ≠ commentMarker)

/-- Spaces and tabs. -/
def isBlank (c : Char) : Bool :=
  c = ' ' ∨ c = '\t'

/-- A line without its spaces and tabs.  A bad byte comes out as the replacement character. -/
def stripBlanks (line : Bytes) : Bytes :=
  Utf8.encode ((Utf8.chars line).filter (!isBlank ·))

/-- **The token of a line**; the line is blank if it is empty. -/
def sanitize (line : Bytes) : Bytes :=
  stripBlanks (stripComment line)

end OnePass.Source
