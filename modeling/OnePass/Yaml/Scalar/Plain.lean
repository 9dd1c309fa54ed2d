import OnePass.Yaml.Scalar.Gap

/-
**Plain scalars.**

A scalar without quotes ends in front of a colon that ends a word, in front of a comment, at a line
that is indented too little and at a document marker; inside brackets also in front of an indicator.
-/

set_option relaxedAutoImplicit false
set_option autoImplicit false

namespace OnePass.Yaml

/-- The indicators that end a plain scalar inside brackets. -/
def isFlowIndicator (c : Char) : Bool :=
  c == ',' || c == '?' || c == '[' || c == ']' || c == '\x7b' || c == '\x7d'

/-- Whether a plain scalar ends in front of a character, given what follows it. -/
def endsPlain (inFlow : Bool) (c : Char) (rest : List Glyph) : Bool :=
  (c == ':' && atGap rest) || (inFlow && isFlowIndicator c)

/-- The rest of a plain scalar, given what has been read of it in reverse and the gap behind that.
The answer tells the text, and whether the reader stands in a line of its own. -/
def readPlainFrom (inFlow : Bool) (indent start : Nat) (done : List Char) (gap : Gap) :
    List Glyph → Except Problem ((List Char × Bool) × List Glyph)
  | [] => .ok ((done.reverse, gap.isBroken), [])
  | g :: rest =>
    if isBlank g.char then
      if gap.isBroken ∧ g.column < indent ∧ g.char = '\t' then
        .error (Problem.ofLine start "found a tab character that violates indentation")
      else readPlainFrom inFlow indent start done (gap.addBlank g.char) rest
    else if isBreak g.char then readPlainFrom inFlow indent start done (gap.addBreak g.char) rest
    else if !gap.isNone
        && ((!inFlow && g.column < indent) || g.char == '#' || atDocumentMarker (g :: rest)) then
      .ok ((done.reverse, gap.isBroken), g :: rest)
    else if endsPlain inFlow g.char rest then .ok ((done.reverse, gap.isBroken), g :: rest)
    else readPlainFrom inFlow indent start (g.char :: (gap.fill ++ done)) Gap.none rest

/-- A plain scalar, whose further lines are indented by at least `indent` outside of brackets. -/
def readPlain (inFlow : Bool) (indent start : Nat) (gs : List Glyph) :
    Except Problem ((List Char × Bool) × List Glyph) :=
  readPlainFrom inFlow indent start [] Gap.none gs

end OnePass.Yaml
