import OnePass.Yaml.Glyph

/-
**Gaps inside scalars.**

Blanks inside a line of a scalar are kept.  Where a scalar goes on in another line, the blanks
around the break are dropped; a single line feed is folded into a space, and of several the first is
dropped.
-/

set_option relaxedAutoImplicit false
set_option autoImplicit false

namespace OnePass.Yaml

/-- White space inside a scalar, in front of what comes next. -/
inductive Gap where
  /-- Blanks inside a line, in reverse. -/
  | blanks (reversed : List Char)
  /-- A line ends: by the first break, unless that is escaped, and further breaks, in reverse. -/
  | breaks (first : Option Char) (reversed : List Char)
  deriving DecidableEq, Repr

namespace Gap

/-- No white space. -/
def none : Gap := .blanks []

/-- Whether there is no white space. -/
def isNone (gap : Gap) : Bool :=
  match gap with
  | .blanks [] => true
  | _ => false

/-- Whether the gap goes over the end of a line. -/
def isBroken : Gap → Bool
  | .blanks _ => false
  | .breaks _ _ => true

/-- A gap with one more blank. -/
def addBlank (gap : Gap) (c : Char) : Gap :=
  match gap with
  | .blanks reversed => .blanks (c :: reversed)
  | .breaks first reversed => .breaks first reversed

/-- A gap with one more break. -/
def addBreak (gap : Gap) (c : Char) : Gap :=
  match gap with
  | .blanks _ => .breaks (some c) []
  | .breaks first reversed => .breaks first (c :: reversed)

/-- What a gap stands for, in reverse. -/
def fill : Gap → List Char
  | .blanks reversed => reversed
  | .breaks Option.none reversed => reversed
  | .breaks (some '\n') [] => [' ']
  | .breaks (some '\n') reversed => reversed
  | .breaks (some c) reversed => reversed ++ [c]

end Gap

end OnePass.Yaml
