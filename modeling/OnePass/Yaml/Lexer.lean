import OnePass.Yaml.Directive
import OnePass.Yaml.Scalar.Block
import OnePass.Yaml.Scalar.Plain

/-
**From characters to tokens.**

The lexer turns columns into tokens that open and close blocks.  It also recognises keys that have
no indicator of their own: a key is known to be one only at the colon behind it, which has to stand
on the same line and not too far away, and a token for it is then put in front of what has already
been read.

Main definitions:

* `OnePass.Yaml.Lexer` — what has been read and what is still to be read;
* `OnePass.Yaml.Lexer.advance` — **the next token**;
* `OnePass.Yaml.Lexer.scan` — all tokens of a stream.
-/

set_option relaxedAutoImplicit false
set_option autoImplicit false

namespace OnePass.Yaml

/-- The place of a token that turns out to be a key if a colon follows. -/
structure PossibleKey where
  /-- The number of the token. -/
  token : Nat
  /-- Its line. -/
  line : Nat
  /-- Its column. -/
  column : Nat
  /-- Whether it cannot be anything but a key. -/
  required : Bool
  deriving DecidableEq, Repr

/-- What has been read of a stream and what is still to be read. -/
structure Lexer where
  /-- What is still to be read. -/
  rest : List Glyph
  /-- The tokens so far, the last one first. -/
  tokens : List Token := []
  /-- The number of tokens so far. -/
  count : Nat := 0
  /-- The column of the innermost block. -/
  indent : Int := -1
  /-- The columns of the blocks around it. -/
  outerIndents : List Int := []
  /-- The number of open brackets. -/
  depth : Nat := 0
  /-- Whether a key may begin here. -/
  keyAllowed : Bool := true
  /-- The possible key inside of the innermost bracket. -/
  key : Option PossibleKey := none
  /-- The possible keys around it. -/
  outerKeys : List (Option PossibleKey) := []
  /-- Whether the stream has ended. -/
  ended : Bool := false

namespace Lexer

/-! ### White space and comments -/

/-- What a reader between tokens is in the middle of. -/
inductive Between where
  /-- Nothing but blanks and line breaks. -/
  | tokens
  /-- A comment. -/
  | comment
  /-- White space in front of another comment. -/
  | comments
  deriving DecidableEq, Repr

/-- How far the next comment is looked for behind the end of one. -/
def commentReach : Nat := 511

/-- Whether another comment follows within reach, with nothing but white space in front of it. -/
def commentFollows (gs : List Glyph) : Bool :=
  next? ((gs.take commentReach).dropWhile fun g => isBlank g.char || isBreak g.char) == some '#'

/-- What is left in front of the next token, and whether a key may begin there. Tabs count as white
space inside of brackets and where no key may begin. -/
def skipBetween (inFlow keyAllowed : Bool) (between : Between) :
    List Glyph → Bool × List Glyph
  | [] => (keyAllowed, [])
  | g :: rest =>
    match between with
    | .comment =>
      if !isBreak g.char then skipBetween inFlow keyAllowed .comment rest
      else if commentFollows rest then skipBetween inFlow keyAllowed .comments rest
      else skipBetween inFlow (keyAllowed || !inFlow) .tokens rest
    | .comments =>
      skipBetween inFlow keyAllowed (if g.char = '#' then .comment else .comments) rest
    | .tokens =>
      if g.char = ' ' ∨ (g.char = '\t' ∧ (inFlow ∨ ¬ keyAllowed)) then
        skipBetween inFlow keyAllowed .tokens rest
      else if isBreak g.char then skipBetween inFlow (keyAllowed || !inFlow) .tokens rest
      else if g.char = '#' then skipBetween inFlow keyAllowed .comment rest
      else (keyAllowed, g :: rest)

/-- What is left behind a comment on the same line, if one follows. -/
def skipLineComment (gs : List Glyph) : List Glyph :=
  if next? (skipBlanks (gs.take (commentReach + 1))) = some '#' then skipLine gs else gs

/-! ### Blocks -/

/-- Whether the lexer is inside of brackets. -/
def inFlow (lx : Lexer) : Bool :=
  0 < lx.depth

/-- Adds a token. -/
def emit (lx : Lexer) (kind : Token.Kind) (line : Nat) : Lexer :=
  { lx with tokens := ⟨kind, line⟩ :: lx.tokens, count := lx.count + 1 }

/-- Adds a token in front of the one with the given number. -/
def emitAt (lx : Lexer) (position : Nat) (kind : Token.Kind) (line : Nat) : Lexer :=
  { lx with
    tokens := lx.tokens.insertIdx (lx.count - position) ⟨kind, line⟩, count := lx.count + 1 }

/-- Closes the blocks that are indented further than a column, of those around the innermost one. -/
def closeBlocks (lx : Lexer) (column : Int) (line : Nat) : List Int → Lexer
  | [] => { lx with outerIndents := [] }
  | outer :: outers =>
    if column < lx.indent then
      closeBlocks { lx.emit .blockEnd line with indent := outer } column line outers
    else { lx with outerIndents := outer :: outers }

/-- Closes the blocks that end in front of a column. Inside of brackets columns have no meaning. -/
def unroll (lx : Lexer) (column : Int) (line : Nat) : Lexer :=
  if lx.inFlow then lx else lx.closeBlocks column line lx.outerIndents

/-- Opens a block at a column further right than the innermost one, with its token at a place among
those already there. -/
def roll (lx : Lexer) (column line position : Nat) (kind : Token.Kind) : Lexer :=
  if lx.inFlow ∨ (column : Int) ≤ lx.indent then lx
  else
    { lx.emitAt position kind line with
      indent := column
      outerIndents := lx.indent :: lx.outerIndents }

/-! ### Keys -/

/-- The largest distance between the start of a key and its colon. -/
def keyReach : Nat := 1024

/-- A key that has to be one and is not followed by a colon. -/
def missingColon (key : PossibleKey) : Problem :=
  Problem.ofLine key.line "could not find expected ':'"

/-- Gives up the possible key. -/
def dropKey (lx : Lexer) : Except Problem Lexer :=
  match lx.key with
  | none => .ok lx
  | some key => if key.required then .error (missingColon key) else .ok { lx with key := none }

/-- Notes that the token to come may be a key. -/
def saveKey (lx : Lexer) (g : Glyph) : Except Problem Lexer := do
  if lx.keyAllowed then
    let lx ← lx.dropKey
    return { lx with
      key := some ⟨lx.count, g.line, g.column, !lx.inFlow && lx.indent == g.column⟩ }
  else return lx

/-- Whether a possible key is too far away from a place to be one. -/
def isStale (key : PossibleKey) (g : Glyph) : Bool :=
  key.line < g.line || key.column + keyReach < g.column

/-! ### Kinds of tokens -/

/-- The largest number of brackets inside of each other. -/
def maxDepth : Nat := 10000

/-- An opening bracket. -/
def openBracket (lx : Lexer) (kind : Token.Kind) (g : Glyph) (rest : List Glyph) :
    Except Problem Lexer := do
  let lx ← lx.saveKey g
  if maxDepth ≤ lx.depth then
    .error (Problem.ofLine g.line "exceeded max depth of 10000")
  else
    return { lx.emit kind g.line with
      rest := rest
      depth := lx.depth + 1
      key := none
      outerKeys := lx.key :: lx.outerKeys
      keyAllowed := true }

/-- A closing bracket. -/
def closeBracket (lx : Lexer) (kind : Token.Kind) (g : Glyph) (rest : List Glyph) :
    Except Problem Lexer := do
  let lx ← lx.dropKey
  let (key, outerKeys) :=
    match lx.outerKeys with
    | [] => (none, [])
    | key :: keys => (key, keys)
  return { lx.emit kind g.line with
    rest := rest
    depth := lx.depth - 1
    key := key
    outerKeys := outerKeys
    keyAllowed := false }

/-- The comma between entries. -/
def flowEntry (lx : Lexer) (g : Glyph) (rest : List Glyph) : Except Problem Lexer := do
  let lx ← lx.dropKey
  return { lx.emit .flowEntry g.line with rest := rest, keyAllowed := true }

/-- The dash in front of an entry. -/
def blockEntry (lx : Lexer) (g : Glyph) (rest : List Glyph) : Except Problem Lexer := do
  if !lx.inFlow && !lx.keyAllowed then
    .error (Problem.ofLine g.line "block sequence entries are not allowed in this context")
  let lx ← (lx.roll g.column g.line lx.count .blockSequenceStart).dropKey
  return { lx.emit .blockEntry g.line with rest := rest, keyAllowed := true }

/-- The question mark in front of a key. -/
def explicitKey (lx : Lexer) (g : Glyph) (rest : List Glyph) : Except Problem Lexer := do
  if !lx.inFlow && !lx.keyAllowed then
    .error (Problem.ofLine g.line "mapping keys are not allowed in this context")
  let lx ← (lx.roll g.column g.line lx.count .blockMappingStart).dropKey
  return { lx.emit .key g.line with rest := rest, keyAllowed := !lx.inFlow }

/-- A colon behind a key that was marked as one. -/
def valueOfExplicitKey (lx : Lexer) (g : Glyph) (rest : List Glyph) : Except Problem Lexer := do
  if !lx.inFlow && !lx.keyAllowed then
    .error (Problem.ofLine g.line "mapping values are not allowed in this context")
  let lx := lx.roll g.column g.line lx.count .blockMappingStart
  return { lx.emit .value g.line with rest := rest, keyAllowed := !lx.inFlow }

/-- A colon behind a key that was not marked: the key gets its token now. -/
def valueOfSimpleKey (lx : Lexer) (key : PossibleKey) (g : Glyph) (rest : List Glyph) : Lexer :=
  let lx := { lx.emitAt key.token .key key.line with key := none }
  let lx := lx.roll key.column key.line key.token .blockMappingStart
  { lx.emit .value g.line with rest := rest, keyAllowed := false }

/-- The colon in front of a value. -/
def value (lx : Lexer) (g : Glyph) (rest : List Glyph) : Except Problem Lexer :=
  match lx.key with
  | none => lx.valueOfExplicitKey g rest
  | some key =>
    if !isStale key g then .ok (lx.valueOfSimpleKey key g rest)
    else if key.required then .error (missingColon key)
    else { lx with key := none }.valueOfExplicitKey g rest

/-- An anchor or an alias. -/
def named (lx : Lexer) (kind : Bytes → Token.Kind) (g : Glyph) (rest : List Glyph) :
    Except Problem Lexer := do
  let lx ← lx.saveKey g
  let (name, rest) ← readName g.line rest
  return { lx.emit (kind name) g.line with rest := rest, keyAllowed := false }

/-- A tag. -/
def tag (lx : Lexer) (g : Glyph) (rest : List Glyph) : Except Problem Lexer := do
  let lx ← lx.saveKey g
  let ((handle, suffix), rest) ← readTag g.line (g :: rest)
  return { lx.emit (.tag handle suffix) g.line with rest := rest, keyAllowed := false }

/-- A block scalar. -/
def blockScalar (lx : Lexer) (literal : Bool) (g : Glyph) (rest : List Glyph) :
    Except Problem Lexer := do
  let lx ← lx.dropKey
  let (text, rest) ← readBlock literal lx.indent g.line rest
  return { lx.emit (.scalar false text) g.line with rest := rest, keyAllowed := true }

/-- A quoted scalar. -/
def quotedScalar (lx : Lexer) (g : Glyph) (rest : List Glyph) : Except Problem Lexer := do
  let lx ← lx.saveKey g
  let (text, rest) ←
    if g.char = '"' then readDoubleQuoted g.line rest else readSingleQuoted g.line rest
  return { lx.emit (.scalar false text) g.line with rest := rest, keyAllowed := false }

/-- A plain scalar. -/
def plainScalar (lx : Lexer) (g : Glyph) (rest : List Glyph) : Except Problem Lexer := do
  let lx ← lx.saveKey g
  let ((text, fresh), rest) ← readPlain lx.inFlow (lx.indent + 1).toNat g.line (g :: rest)
  return { lx.emit (.scalar true text) g.line with rest := rest, keyAllowed := fresh }

/-- The characters that cannot begin a plain scalar by themselves. -/
def isIndicator (c : Char) : Bool :=
  "-?:,[]\x7b\x7d#&*!|>'\"%@\x60".toList.contains c

/-- Whether a plain scalar may begin here. -/
def mayBePlain (lx : Lexer) (c : Char) (rest : List Glyph) : Bool :=
  (!isBlank c && !isIndicator c)
    || (c == '-' && !atBlank rest)
    || (!lx.inFlow && (c == '?' || c == ':') && !atGap rest)

/-- A token that is neither a directive nor a document marker. -/
def token (lx : Lexer) (g : Glyph) (rest : List Glyph) : Except Problem Lexer :=
  let indicates := lx.inFlow || atGap rest
  match g.char with
  | '[' => lx.openBracket .flowSequenceStart g rest
  | '\x7b' => lx.openBracket .flowMappingStart g rest
  | ']' => lx.closeBracket .flowSequenceEnd g rest
  | '\x7d' => lx.closeBracket .flowMappingEnd g rest
  | ',' => lx.flowEntry g rest
  | '*' => lx.named .alias g rest
  | '&' => lx.named .anchor g rest
  | '!' => lx.tag g rest
  | '\'' => lx.quotedScalar g rest
  | '"' => lx.quotedScalar g rest
  | c =>
    if c = '-' ∧ atGap rest then lx.blockEntry g rest
    else if c = '?' ∧ indicates then lx.explicitKey g rest
    else if c = ':' ∧ indicates then lx.value g rest
    else if (c = '|' ∨ c = '>') ∧ ¬ lx.inFlow then lx.blockScalar (c == '|') g rest
    else if lx.mayBePlain c rest then lx.plainScalar g rest
    else .error (Problem.ofLine g.line "found character that cannot start any token")

/-- A token at the left margin that ends all blocks. -/
def marginal (lx : Lexer) (kind : Token.Kind) (line : Nat) (rest : List Glyph) :
    Except Problem Lexer := do
  let lx ← (lx.unroll (-1) line).dropKey
  return { lx.emit kind line with rest := rest, keyAllowed := false }

/-- Whether a comment may follow on the line of the last token. None can behind the dash of an
entry, and a scalar behind which a key may begin has left its line. -/
def mayHaveComment (lx : Lexer) : Bool :=
  match lx.tokens.head? with
  | some ⟨.blockEntry, _⟩ => false
  | some ⟨.scalar _ _, _⟩ => !lx.keyAllowed
  | _ => true

/-- **The next token**, with those that close blocks in front of it. -/
def advance (lx : Lexer) : Except Problem Lexer :=
  let (keyAllowed, rest) := skipBetween lx.inFlow lx.keyAllowed .tokens lx.rest
  let lx := { lx with keyAllowed := keyAllowed, rest := rest }
  match rest with
  | [] => do
    let lx ← lx.marginal .streamEnd 0 []
    return { lx with ended := true }
  | g :: rest =>
    let lx := lx.unroll g.column g.line
    if g.column = 0 ∧ g.char = '%' then do
      let lx ← (lx.unroll (-1) g.line).dropKey
      let (kind, rest) ← readDirective g.line rest
      lx.marginal kind g.line rest
    else if atMarker '-' (g :: rest) then lx.marginal .documentStart g.line (rest.drop 2)
    else if atMarker '.' (g :: rest) then lx.marginal .documentEnd g.line (rest.drop 2)
    else do
      let lx ← lx.token g rest
      return if lx.mayHaveComment then { lx with rest := skipLineComment lx.rest } else lx

/-! ### All tokens -/

/-- The tokens of a stream, up to the first problem. -/
structure Scanned where
  /-- The tokens that can be relied on. -/
  tokens : List Token
  /-- What is wrong behind them. -/
  problem : Option Problem

/-- Whether the number of a possible key's token cannot be relied on yet. -/
def isPending (lx : Lexer) (key : PossibleKey) : Bool :=
  key.required || lx.rest.head?.all (!isStale key ·)

/-- The number of tokens that can be relied on in front of a problem. A token counts only if two
more follow it, and not while it or one in front of it may still turn out to be a key. -/
def settled (lx : Lexer) : Nat :=
  let pending := ((lx.key :: lx.outerKeys).filterMap id).filter lx.isPending
  pending.foldl (fun n key => min n key.token) (lx.count - 2)

/-- The tokens of the rest of a stream, if `fuel` tokens are enough to reach its end. -/
def run (lx : Lexer) : Nat → Scanned
  | 0 => ⟨lx.tokens.reverse, none⟩
  | fuel + 1 =>
    match lx.advance with
    | .error problem => ⟨lx.tokens.reverse.take lx.settled, some problem⟩
    | .ok lx' => if lx'.ended then ⟨lx'.tokens.reverse, none⟩ else run lx' fuel

/-- All tokens of a stream. Every step but the last takes at least one character. -/
def scan (gs : List Glyph) : Scanned :=
  run { rest := gs } (gs.length + 1)

end Lexer

end OnePass.Yaml
