import OnePass.Text.Quoted
import OnePass.Text.Space

/-
**Log lines.**

A log entry is written on one line, as a level, a message and named values.  A text that could be
misread on such a line is quoted.

Main definitions:

* `OnePass.Log.Level` — how important an entry is;
* `OnePass.Log.Entry` — an entry, and `OnePass.Log.Entry.line`, the line it is written on;
* `OnePass.Log.write` — what a log with a minimum level writes.
-/

set_option relaxedAutoImplicit false
set_option autoImplicit false

namespace OnePass.Log

open Bytes (ofString ofInt ofAscii)
open Utf8 (Piece)

/-! ### Levels -/

/-- How important an entry is. -/
abbrev Level := Int

/-- The level of entries on single words, below that of debugging. -/
def trace : Level := -8

/-- The level of debugging. -/
def debug : Level := -4

/-- The level that is shown without being asked for. -/
def info : Level := 0

/-- A level is named by the nearest named one at or below it, and the lowest levels by the lowest
name, with the distance from it. -/
def levelName (level : Level) : Bytes :=
  if level < 0 then above "DEBUG" (-4)
  else if level < 4 then above "INFO" 0
  else if level < 8 then above "WARN" 4
  else above "ERROR" 8
where
  /-- A named level with the distance from it. -/
  above (name : String) (base : Level) : Bytes :=
    let distance := level - base
    ofString name ++
      if distance = 0 then []
      else if distance < 0 then ofInt distance
      else ofAscii '+' :: ofInt distance

/-! ### Entries -/

/-- Whether a piece of a text forces the text to be quoted. -/
def forcesQuotes : Piece → Bool
  | .bad _ => true
  | .good c =>
    if c.toNat < 0x80 then c.toNat < 0x20 || c == ' ' || c == '=' || c == '"'
    else c == Utf8.replacement || Text.isSpace c || !Text.isPrintable c

/-- A text as it stands on a log line. -/
def field (s : Bytes) : Bytes :=
  if s = [] ∨ (Utf8.pieces s).any forcesQuotes then Text.quote s else s

/-- A value on a log line. -/
inductive Value where
  /-- A text. -/
  | text (s : Bytes)
  /-- A number. -/
  | number (n : Int)
  deriving DecidableEq, Repr

/-- A value as it stands on a log line. -/
def Value.field : Value → Bytes
  | .text s => Log.field s
  | .number n => ofInt n

/-- An entry of a log. -/
structure Entry where
  /-- How important it is. -/
  level : Level
  /-- What happened. -/
  message : Bytes
  /-- The values that go with it, by name. -/
  values : List (String × Value) := []
  deriving DecidableEq, Repr

/-- The line of an entry, with its line feed. -/
def Entry.line (entry : Entry) : Bytes :=
  let named := entry.values.map fun (name, value) => ofString name ++ ofAscii '=' :: value.field
  Bytes.join [ofAscii ' ']
    ([ofString "level=" ++ levelName entry.level, ofString "msg=" ++ field entry.message] ++ named)
    ++ [Bytes.newline]

/-- What a log writes that leaves out everything below its minimum level. -/
def write (minimum : Level) (entries : List Entry) : Bytes :=
  (entries.filter (minimum ≤ ·.level)).flatMap Entry.line

end OnePass.Log
