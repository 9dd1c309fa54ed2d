import OnePass.Yaml.Glyph

/-
**Block scalars.**

A block scalar is a run of indented lines.  A literal one keeps its line breaks; a folded one folds
those between lines that do not begin with a blank.  Its header may tell how far the lines are
indented and what becomes of the breaks at its end.

Main definitions:

* `OnePass.Yaml.BlockHeader` — what stands behind the indicator;
* `OnePass.Yaml.readBlock` — **the scalar** behind its indicator.
-/

set_option relaxedAutoImplicit false
set_option autoImplicit false

namespace OnePass.Yaml

/-! ### Headers -/

/-- What becomes of the line breaks at the end. -/
inductive Chomping where
  /-- All are dropped. -/
  | strip
  /-- The first is kept. -/
  | clip
  /-- All are kept. -/
  | keep
  deriving DecidableEq, Repr

/-- What stands behind the indicator of a block scalar. -/
structure BlockHeader where
  /-- What becomes of the line breaks at the end. -/
  chomping : Chomping := .clip
  /-- How much further the lines are indented; with zero the first line decides. -/
  increment : Nat := 0
  deriving DecidableEq, Repr

/-- The chomping that an indicator asks for. -/
def chomping? : Char → Option Chomping
  | '+' => some .keep
  | '-' => some .strip
  | _ => none

/-- A chomping indicator, if there is one. -/
def readChomping (gs : List Glyph) : Option Chomping × List Glyph :=
  match gs with
  | [] => (none, [])
  | g :: rest =>
    match chomping? g.char with
    | none => (none, g :: rest)
    | some chomping => (some chomping, rest)

/-- An indentation indicator, if there is one; it may not be zero. -/
def readIncrement (start : Nat) (gs : List Glyph) : Except Problem (Nat × List Glyph) :=
  match gs with
  | [] => .ok (0, [])
  | g :: rest =>
    if g.char = '0' then
      .error (Problem.ofLine start "found an indentation indicator equal to 0")
    else if g.char.isDigit then .ok (g.char.toNat - '0'.toNat, rest)
    else .ok (0, g :: rest)

/-- The indicators of a header, in either order. -/
def readIndicators (start : Nat) (gs : List Glyph) : Except Problem (BlockHeader × List Glyph) :=
  match readChomping gs with
  | (some chomping, rest) => do
    let (increment, rest) ← readIncrement start rest
    return (⟨chomping, increment⟩, rest)
  | (none, rest) => do
    let (increment, rest) ← readIncrement start rest
    if increment = 0 then return (⟨.clip, 0⟩, rest)
    else
      let (chomping, rest) := readChomping rest
      return (⟨chomping.getD .clip, increment⟩, rest)

/-- A header with its line break. -/
def readHeader (start : Nat) (gs : List Glyph) : Except Problem (BlockHeader × List Glyph) := do
  let (header, rest) ← readIndicators start gs
  let rest := skipBlanks rest
  let rest := if next? rest = some '#' then skipLine rest else rest
  if atLineEnd rest then return (header, rest.drop 1)
  else .error (Problem.ofLine start "did not find expected comment or line break")

/-! ### Lines -/

/-- A reader of block lines. -/
structure BlockReader where
  /-- What has been read, in reverse. -/
  done : List Char := []
  /-- How far the lines are indented; zero as long as that is not known. -/
  indent : Nat
  /-- The farthest indentation seen while it is not known. -/
  farthest : Nat := 0
  /-- The break behind the last line. -/
  leading : List Char := []
  /-- The breaks of the empty lines behind it, in reverse. -/
  trailing : List Char := []
  /-- Whether the last line began with a blank. -/
  afterBlank : Bool := false
  /-- Whether the reader is inside of a line. -/
  inLine : Bool := false

namespace BlockReader

/-- A reader that begins a line with a character. -/
def begin (literal : Bool) (r : BlockReader) (c : Char) : BlockReader :=
  let folds := !literal && !r.afterBlank && !isBlank c && r.leading == ['\n']
  let joined :=
    if folds then (if r.trailing.isEmpty then [' '] else []) else r.leading
  { r with
    done := c :: (r.trailing ++ joined ++ r.done)
    leading := []
    trailing := []
    afterBlank := isBlank c
    inLine := true }

/-- The text of a block, with the breaks at its end. -/
def finish (chomping : Chomping) (r : BlockReader) : List Char :=
  match chomping with
  | .strip => r.done.reverse
  | .clip => (r.leading ++ r.done).reverse
  | .keep => (r.trailing ++ r.leading ++ r.done).reverse

/-- How far the lines are indented, decided by a line that begins at a column. -/
def settle (least column : Nat) (r : BlockReader) : BlockReader :=
  if r.indent = 0 then { r with indent := max (max r.farthest column) (max least 1) } else r

/-- The lines of a block, of which each is indented by at least `least`. -/
def read (literal : Bool) (chomping : Chomping) (least start : Nat) (r : BlockReader) :
    List Glyph → Except Problem (List Char × List Glyph)
  | [] => .ok (r.finish chomping, [])
  | g :: rest =>
    if r.inLine then
      if isBreak g.char then
        read literal chomping least start { r with leading := [g.char], inLine := false } rest
      else read literal chomping least start { r with done := g.char :: r.done } rest
    else
      let shallow := r.indent = 0 ∨ g.column < r.indent
      if shallow ∧ g.char = ' ' then
        read literal chomping least start
          { r with farthest := max r.farthest (g.column + 1) } rest
      else if shallow ∧ g.char = '\t' then
        .error (Problem.ofLine start
          "found a tab character where an indentation space is expected")
      else if isBreak g.char then
        read literal chomping least start { r with trailing := g.char :: r.trailing } rest
      else
        let r' := r.settle least g.column
        if g.column = r'.indent then
          read literal chomping least start (r'.begin literal g.char) rest
        else .ok (r'.finish chomping, g :: rest)

end BlockReader

/-- **A block scalar** behind its indicator, inside of a block indented by `parent`. -/
def readBlock (literal : Bool) (parent : Int) (start : Nat) (gs : List Glyph) :
    Except Problem (List Char × List Glyph) := do
  let (header, rest) ← readHeader start gs
  let indent := if header.increment = 0 then 0 else parent.toNat + header.increment
  BlockReader.read literal header.chomping (parent + 1).toNat start { indent := indent } rest

end OnePass.Yaml
