import OnePass.Yaml.Property
import OnePass.Yaml.Token

/-
**Directives.**

Directives stand in front of a document, each on a line of its own: the version of YAML, and what
tag handles stand for.
-/

set_option relaxedAutoImplicit false
set_option autoImplicit false

namespace OnePass.Yaml

/-- A number of a version, which has at most two digits. -/
def readVersionNumber (start : Nat) (gs : List Glyph) : Except Problem (Nat × List Glyph) :=
  let (digits, rest) := span Char.isDigit gs
  if digits.isEmpty then .error (Problem.ofLine start "did not find expected version number")
  else if 2 < digits.length then
    .error (Problem.ofLine start "found extremely long version number")
  else .ok (digits.foldl (fun n c => 10 * n + (c.toNat - '0'.toNat)) 0, rest)

/-- The value of a version directive. -/
def readVersion (start : Nat) (gs : List Glyph) :
    Except Problem (Token.Kind × List Glyph) := do
  let (major, rest) ← readVersionNumber start (skipBlanks gs)
  if next? rest = some '.' then
    let (minor, rest) ← readVersionNumber start (rest.drop 1)
    return (.versionDirective major minor, rest)
  else .error (Problem.ofLine start "did not find expected digit or '.' character")

/-- The value of a tag directive. -/
def readTagValue (start : Nat) (gs : List Glyph) :
    Except Problem (Token.Kind × List Glyph) := do
  let gs := skipBlanks gs
  if next? gs ≠ some '!' then .error (Problem.ofLine start "did not find expected '!'")
  let (handle, rest) := readHandle gs
  if handle ≠ Utf8.encode ['!'] ∧ ¬ isHandle handle then
    .error (Problem.ofLine start "did not find expected '!'")
  if !atBlank rest then .error (Problem.ofLine start "did not find expected whitespace")
  let (expansion, rest) ← readTagText start [] (skipBlanks rest)
  if atGap rest then return (.tagDirective handle expansion, rest)
  else .error (Problem.ofLine start "did not find expected whitespace or line break")

/-- A directive behind its indicator, with its line break. -/
def readDirective (start : Nat) (gs : List Glyph) :
    Except Problem (Token.Kind × List Glyph) := do
  let (name, rest) := span isNameChar gs
  if name.isEmpty then .error (Problem.ofLine start "could not find expected directive name")
  if !atGap rest then
    .error (Problem.ofLine start "found unexpected non-alphabetical character")
  let (kind, rest) ←
    if name = "YAML".toList then readVersion start rest
    else if name = "TAG".toList then readTagValue start rest
    else .error (Problem.ofLine start "found unknown directive name")
  let rest := skipBlanks rest
  let rest := if next? rest = some '#' then skipLine rest else rest
  if atLineEnd rest then return (kind, rest.drop 1)
  else .error (Problem.ofLine start "did not find expected comment or line break")

end OnePass.Yaml
