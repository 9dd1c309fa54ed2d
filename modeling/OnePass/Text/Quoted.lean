import OnePass.Text.Printable
import OnePass.Text.Utf8

/-
**Quoted text.**

A quoted text stands between quotes on a single line, whatever the text holds.  Printable characters
stand for themselves; a quote, a backslash and everything that cannot be shown is written with a
backslash.

Main definitions:

* `OnePass.Text.escape` — how one piece of a text is written between quotes;
* `OnePass.Text.quote` — a text between double quotes;
* `OnePass.Text.quoteChar` — a character between single quotes.
-/

set_option relaxedAutoImplicit false
set_option autoImplicit false

namespace OnePass.Text

open Bytes (ofString ofAscii)
open Utf8 (Piece)

/-- The letter that names a control character behind a backslash, for those that have one. -/
def controlLetter? (c : Char) : Option Char :=
  match c.toNat with
  | 0x07 => some 'a'
  | 0x08 => some 'b'
  | 0x09 => some 't'
  | 0x0A => some 'n'
  | 0x0B => some 'v'
  | 0x0C => some 'f'
  | 0x0D => some 'r'
  | _ => none

/-- A character as it is written between quotes of the given kind. -/
def escapeChar (mark c : Char) : Bytes :=
  if c = mark ∨ c = '\\' then [ofAscii '\\', ofAscii c]
  else if isPrintable c then String.utf8EncodeChar c
  else
    match controlLetter? c with
    | some letter => [ofAscii '\\', ofAscii letter]
    | none =>
      if c.toNat < 0x20 ∨ c.toNat = 0x7F then ofString "\\x" ++ Bytes.hex 2 c.toNat
      else if c.toNat < 0x10000 then ofString "\\u" ++ Bytes.hex 4 c.toNat
      else ofString "\\U" ++ Bytes.hex 8 c.toNat

/-- A piece of a text as it is written between quotes: a bad byte is given by its number. -/
def escape (mark : Char) : Piece → Bytes
  | .good c => escapeChar mark c
  | .bad b => ofString "\\x" ++ Bytes.hex 2 b.toNat

/-- A text between double quotes. -/
def quote (s : Bytes) : Bytes :=
  ofAscii '"' :: ((Utf8.pieces s).flatMap (escape '"') ++ [ofAscii '"'])

/-- A character between single quotes. -/
def quoteChar (c : Char) : Bytes :=
  ofAscii '\'' :: (escapeChar '\'' c ++ [ofAscii '\''])

end OnePass.Text
