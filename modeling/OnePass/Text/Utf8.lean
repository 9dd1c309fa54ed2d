import OnePass.Text.Bytes

/-
**Reading bytes as UTF-8.**

A byte string is read from left to right as a list of *pieces*.  A piece is either a character,
written in the shortest way as one to four bytes, or a single bad byte: a byte that does not begin a
well-formed character.  Surrogates, overlong forms and truncated sequences are not well formed, so
each of their bytes is a bad byte of its own.

Main definitions:

* `OnePass.Utf8.Piece` — a character or a bad byte;
* `OnePass.Utf8.pieces` — **the reading of a byte string**;
* `OnePass.Utf8.encode` — the bytes of a list of characters;
* `OnePass.Utf8.chars?` — the characters of a text without bad bytes;
* `OnePass.Utf8.Piece.char` — the character that stands for a piece, `U+FFFD` for a bad byte.
-/

set_option relaxedAutoImplicit false
set_option autoImplicit false

namespace OnePass.Utf8

/-! ### Pieces -/

/-- What a reader of UTF-8 finds at one position of a text. -/
inductive Piece where
  /-- A well-formed character. -/
  | good (c : Char)
  /-- A byte that does not begin a well-formed character. -/
  | bad (b : UInt8)
  deriving DecidableEq, Repr

/-- The replacement character, which stands for a bad byte. -/
def replacement : Char := '�'

/-- The character shown for a piece. -/
def Piece.char : Piece → Char
  | .good c => c
  | .bad _ => replacement

/-- The six low bits of a continuation byte, if the byte is one. -/
def continuation? (b : UInt8) : Option Nat :=
  if 0x80 ≤ b ∧ b < 0xC0 then some (b.toNat - 0x80) else none

/-- The character `n`, if it is one and needs more bytes than any number below `least` does. -/
def checked? (least n : Nat) : Option Char :=
  if least ≤ n ∧ n.isValidChar then some (Char.ofNat n) else none

/-- The character written by two bytes. -/
def two? (b₀ b₁ : UInt8) : Option Char := do
  if ¬ (0xC0 ≤ b₀ ∧ b₀ < 0xE0) then none
  let x₁ ← continuation? b₁
  checked? 0x80 ((b₀.toNat - 0xC0) * 0x40 + x₁)

/-- The character written by three bytes. -/
def three? (b₀ b₁ b₂ : UInt8) : Option Char := do
  if ¬ (0xE0 ≤ b₀ ∧ b₀ < 0xF0) then none
  let x₁ ← continuation? b₁
  let x₂ ← continuation? b₂
  checked? 0x800 (((b₀.toNat - 0xE0) * 0x40 + x₁) * 0x40 + x₂)

/-- The character written by four bytes. -/
def four? (b₀ b₁ b₂ b₃ : UInt8) : Option Char := do
  if ¬ (0xF0 ≤ b₀ ∧ b₀ < 0xF8) then none
  let x₁ ← continuation? b₁
  let x₂ ← continuation? b₂
  let x₃ ← continuation? b₃
  checked? 0x10000 ((((b₀.toNat - 0xF0) * 0x40 + x₁) * 0x40 + x₂) * 0x40 + x₃)

/-- The pieces of a text behind those already read, which are held in reverse. -/
def readPieces (done : List Piece) : Bytes → List Piece
  | [] => done.reverse
  | b₀ :: r₀ =>
    if b₀ < 0x80 then
      readPieces (.good (Char.ofNat b₀.toNat) :: done) r₀
    else
      match r₀ with
      | [] => readPieces (.bad b₀ :: done) []
      | b₁ :: r₁ =>
        match two? b₀ b₁ with
        | some c => readPieces (.good c :: done) r₁
        | none =>
          match r₁ with
          | [] => readPieces (.bad b₀ :: done) [b₁]
          | b₂ :: r₂ =>
            match three? b₀ b₁ b₂ with
            | some c => readPieces (.good c :: done) r₂
            | none =>
              match r₂ with
              | [] => readPieces (.bad b₀ :: done) [b₁, b₂]
              | b₃ :: r₃ =>
                match four? b₀ b₁ b₂ b₃ with
                | some c => readPieces (.good c :: done) r₃
                | none => readPieces (.bad b₀ :: done) (b₁ :: b₂ :: b₃ :: r₃)

/-- **The reading of a byte string** as characters and bad bytes. -/
def pieces (s : Bytes) : List Piece :=
  readPieces [] s

/-! ### Characters -/

/-- The bytes of a list of characters. -/
def encode (cs : List Char) : Bytes :=
  cs.flatMap String.utf8EncodeChar

/-- The characters of a text, with `U+FFFD` for every bad byte. -/
def chars (s : Bytes) : List Char :=
  (pieces s).map Piece.char

/-- The characters of a text that has no bad byte. -/
def chars? (s : Bytes) : Option (List Char) :=
  (pieces s).mapM fun
    | .good c => some c
    | .bad _ => none

end OnePass.Utf8
