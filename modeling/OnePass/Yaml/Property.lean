import OnePass.Yaml.Scalar.Quoted

/-
**Anchors, aliases and tags.**

Anchors and aliases are names.  A tag is written in full between angle brackets, or as a handle and
a suffix; the handle is looked up later, among those that the directives of the document declare.

Main definitions:

* `OnePass.Yaml.readName` — the name of an anchor or an alias;
* `OnePass.Yaml.readTag` — a tag, as its handle and its suffix.
-/

set_option relaxedAutoImplicit false
set_option autoImplicit false

namespace OnePass.Yaml

/-! ### Names -/

/-- The characters that begin the rest of the stream, as long as they are of a class. -/
def span (p : Char → Bool) (gs : List Glyph) : List Char × List Glyph :=
  ((gs.takeWhile (p ·.char)).map (·.char), gs.dropWhile (p ·.char))

/-- Whether a name may end here. -/
def atNameEnd (gs : List Glyph) : Bool :=
  atGap gs || (next? gs).any "?:,]\x7d%@\x60".toList.contains

/-- The name of an anchor or an alias, behind its indicator. -/
def readName (start : Nat) (gs : List Glyph) : Except Problem (Bytes × List Glyph) :=
  let (name, rest) := span isNameChar gs
  if name.isEmpty || !atNameEnd rest then
    .error (Problem.ofLine start "did not find expected alphabetic or numeric character")
  else .ok (Utf8.encode name, rest)

/-! ### Tags -/

/-- The characters of a tag that stand for themselves or begin an escape. -/
def isTagChar (c : Char) : Bool :=
  isNameChar c || ";/?:@&=+$,.!~*'()[]%".toList.contains c

/-- The number of octets behind a leading octet of UTF-8. -/
def octetsBehind? (octet : Nat) : Option Nat :=
  if octet < 0x80 then some 0
  else if octet < 0xC0 then none
  else if octet < 0xE0 then some 1
  else if octet < 0xF0 then some 2
  else if octet < 0xF8 then some 3
  else none

/-- The characters of a tag, in which `%` and two hexadecimal digits stand for an octet; `missing`
octets have to follow before anything else. -/
def readTagChars (start : Nat) (done : Bytes) (missing : Nat) :
    List Glyph → Except Problem (Bytes × List Glyph)
  | g :: h :: l :: rest =>
    if g.char = '%' then
      match hexDigit? h.char, hexDigit? l.char with
      | some high, some low =>
        let octet := 16 * high + low
        if 0 < missing then
          if 0x80 ≤ octet ∧ octet < 0xC0 then
            readTagChars start (octet.toUInt8 :: done) (missing - 1) rest
          else .error (Problem.ofLine start "found an incorrect trailing UTF-8 octet")
        else
          match octetsBehind? octet with
          | some n => readTagChars start (octet.toUInt8 :: done) n rest
          | none => .error (Problem.ofLine start "found an incorrect leading UTF-8 octet")
      | _, _ => .error (Problem.ofLine start "did not find URI escaped octet")
    else if 0 < missing then .error (Problem.ofLine start "did not find URI escaped octet")
    else if isTagChar g.char then
      readTagChars start (Bytes.ofAscii g.char :: done) 0 (h :: l :: rest)
    else .ok (done.reverse, g :: h :: l :: rest)
  | gs =>
    let (cs, rest) := span (fun c => isTagChar c && c != '%') gs
    if 0 < missing ∨ next? rest = some '%' then
      .error (Problem.ofLine start "did not find URI escaped octet")
    else .ok (done.reverse ++ Utf8.encode cs, rest)

/-- The characters of a tag behind those already known, of which there has to be at least one. -/
def readTagText (start : Nat) (head : Bytes) (gs : List Glyph) :
    Except Problem (Bytes × List Glyph) := do
  let (text, rest) ← readTagChars start [] 0 gs
  if head.isEmpty && text.isEmpty then
    .error (Problem.ofLine start "did not find expected tag URI")
  else return (head ++ text, rest)

/-- The start of a tag as it is written: `!`, a name, and a second `!` if that follows. -/
def readHandle (gs : List Glyph) : Bytes × List Glyph :=
  let (name, rest) := span isNameChar (gs.drop 1)
  if next? rest = some '!' then (Utf8.encode ('!' :: (name ++ ['!'])), rest.drop 1)
  else (Utf8.encode ('!' :: name), rest)

/-- Whether the start of a tag is a handle: it ends with a second `!`. -/
def isHandle (head : Bytes) : Bool :=
  1 < head.length && head.getLast? == some (Bytes.ofAscii '!')

/-- A tag that stands in front of a node: its handle and its suffix. -/
def readTagBody (start : Nat) (gs : List Glyph) :
    Except Problem ((Bytes × Bytes) × List Glyph) := do
  if next? (gs.drop 1) = some '<' then
    let (text, rest) ← readTagText start [] (gs.drop 2)
    if next? rest = some '>' then return (([], text), rest.drop 1)
    else .error (Problem.ofLine start "did not find the expected '>'")
  else
    let (head, rest) := readHandle gs
    if isHandle head then
      let (suffix, rest) ← readTagText start [] rest
      return ((head, suffix), rest)
    else
      let (text, rest) ← readTagChars start [] 0 rest
      let suffix := head.drop 1 ++ text
      if suffix.isEmpty then return (([], head), rest)
      else return ((Utf8.encode ['!'], suffix), rest)

/-- A tag, behind which a word has to end. -/
def readTag (start : Nat) (gs : List Glyph) : Except Problem ((Bytes × Bytes) × List Glyph) := do
  let (tag, rest) ← readTagBody start gs
  if atGap rest then return (tag, rest)
  else .error (Problem.ofLine start "did not find expected whitespace or line break")

end OnePass.Yaml
