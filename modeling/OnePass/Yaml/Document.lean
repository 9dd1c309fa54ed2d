import OnePass.Yaml.Lexer
import OnePass.Yaml.Node

/-
**From tokens to a document.**

The tokens of a stream are read node by node.  Only the first document of a stream is of interest;
what follows it is not looked at.

Main definitions:

* `OnePass.Yaml.NodeReader` — what has been used of the tokens, and what has been found;
* `OnePass.Yaml.NodeReader.node` — a node;
* `OnePass.Yaml.Document.first?` — **the first document of a stream**, if there is one.
-/

set_option relaxedAutoImplicit false
set_option autoImplicit false

namespace OnePass.Yaml

/-! ### Properties of nodes -/

/-- What stands in front of the content of a node. -/
structure Properties where
  /-- The line where the node starts, counted from zero. -/
  line : Nat
  /-- The anchor. -/
  anchor : Option Bytes := none
  /-- The tag in short form; the tag `!` says nothing. -/
  tag : Option Bytes := none
  /-- Whether there is anything in front of the content. -/
  present : Bool := false

/-! ### Reading nodes -/

/-- What has been used of the tokens, and what has been found. -/
structure NodeReader where
  /-- The tokens still to come. -/
  tokens : List Token
  /-- What is wrong behind them. -/
  problem : Option Problem
  /-- What tag handles stand for. -/
  handles : List (Bytes × Bytes) := []
  /-- The names of anchors with their numbers, the latest first. -/
  names : List (Bytes × Nat) := []
  /-- The anchored nodes by their numbers. -/
  anchored : List (Nat × Node) := []
  /-- The number of anchors so far. -/
  anchors : Nat := 0
  /-- The number of aliases so far. -/
  aliases : Nat := 0

namespace NodeReader

/-- The next token. -/
def peek (r : NodeReader) : Except Problem Token :=
  match r.tokens with
  | token :: _ => .ok token
  | [] => .error (r.problem.getD { text := Bytes.ofString "unexpected end of stream" })

/-- The reader behind the next token. -/
def skip (r : NodeReader) : NodeReader :=
  { r with tokens := r.tokens.drop 1 }

/-- A problem in a construct that starts at a line, or else at the line of a token. -/
def failure (start : Nat) (token : Token) (text : String) : Problem :=
  { text := Bytes.ofString text, line := if start = 0 then token.line else start }

/-- Registers an anchor for a node that is about to begin. -/
def enter (r : NodeReader) (anchor : Option Bytes) : NodeReader :=
  match anchor with
  | none => r
  | some name => { r with names := (name, r.anchors) :: r.names, anchors := r.anchors + 1 }

/-- Stores the node of an anchor, whose number is the one it was registered with. -/
def store (r : NodeReader) (anchor : Option Bytes) (number : Nat) (node : Node) : NodeReader :=
  match anchor with
  | none => r
  | some _ => { r with anchored := (number, node) :: r.anchored }

/-- A tag as it was written, in short form. -/
def resolveTag (r : NodeReader) (start : Nat) (token : Token) (handle suffix : Bytes) :
    Except Problem Bytes :=
  if handle = [] then .ok suffix
  else
    match r.handles.lookup handle with
    | some expansion => .ok (expansion ++ suffix)
    | none => .error (failure start token "found undefined tag handle")

/-- An anchor, if one comes next. -/
def readAnchor (r : NodeReader) : Except Problem (Option Bytes × NodeReader) := do
  match (← r.peek).kind with
  | .anchor name => return (some name, r.skip)
  | _ => return (none, r)

/-- A tag, if one comes next. -/
def readTagToken (r : NodeReader) (start : Nat) : Except Problem (Option Bytes × NodeReader) := do
  let token ← r.peek
  match token.kind with
  | .tag handle suffix =>
    let tag ← r.resolveTag start token handle suffix
    return (some tag, r.skip)
  | _ => return (none, r)

/-- An anchor and a tag, in either order. -/
def readProperties (r : NodeReader) : Except Problem (Properties × NodeReader) := do
  let start := (← r.peek).line
  let (early, r) ← r.readAnchor
  let (tag, r) ← r.readTagToken start
  let (late, r) ← if early.isNone && tag.isSome then r.readAnchor else pure (none, r)
  let anchor := early <|> late
  let short := (tag.map shortTag).filter (· ≠ Bytes.ofString "!")
  return ({ line := start, anchor, tag := short, present := anchor.isSome || tag.isSome }, r)

/-- A missing node, which is an empty scalar. -/
def missing (line : Nat) : Node :=
  .scalar (line + 1) none true []

/-- A reference to an anchored node. -/
def reference (r : NodeReader) (name : Bytes) (line : Nat) : Except Problem (Node × NodeReader) :=
  match r.names.lookup name with
  | none =>
    .error { text := Bytes.ofString "unknown anchor '" ++ name ++ Bytes.ofString "' referenced" }
  | some anchor =>
    .ok (.alias (line + 1) name r.aliases anchor, { r with aliases := r.aliases + 1 })

mutual

/-- A node. Blocks may begin only where `block` allows them, and entries without a block of their
own only where `indentless` does. -/
def node (fuel : Nat) (block indentless : Bool) (r : NodeReader) :
    Except Problem (Node × NodeReader) :=
  match fuel with
  | 0 => .error { text := Bytes.ofString "unexpected end of stream" }
  | fuel + 1 => do
    let token ← r.peek
    if let .alias name := token.kind then
      r.skip.reference name token.line
    else
      let (props, r) ← r.readProperties
      let number := r.anchors
      let r := r.enter props.anchor
      let token ← r.peek
      let line := props.line + 1
      let (node, r) ←
        match token.kind with
        | .scalar plain text => pure (Node.scalar line props.tag plain text, r.skip)
        | .flowSequenceStart =>
          let (items, r) ← flowSequence fuel token.line true [] r.skip
          pure (Node.sequence line props.tag items, r)
        | .flowMappingStart =>
          let (pairs, r) ← flowMapping fuel token.line true [] r.skip
          pure (Node.mapping line props.tag pairs, r)
        | kind =>
          if indentless ∧ kind = .blockEntry then do
            let (items, r) ← indentlessSequence fuel [] r
            pure (Node.sequence line props.tag items, r)
          else if block ∧ kind = .blockSequenceStart then do
            let (items, r) ← blockSequence fuel token.line [] r.skip
            pure (Node.sequence line props.tag items, r)
          else if block ∧ kind = .blockMappingStart then do
            let (pairs, r) ← blockMapping fuel token.line [] r.skip
            pure (Node.mapping line props.tag pairs, r)
          else if props.present then pure (Node.scalar line props.tag true [], r)
          else .error (failure props.line token "did not find expected node content")
      return (node, r.store props.anchor number node)

/-- The entries of a block, behind those already read. -/
def blockSequence (fuel start : Nat) (done : List Node) (r : NodeReader) :
    Except Problem (List Node × NodeReader) :=
  match fuel with
  | 0 => .error { text := Bytes.ofString "unexpected end of stream" }
  | fuel + 1 => do
    let token ← r.peek
    match token.kind with
    | .blockEnd => return (done.reverse, r.skip)
    | .blockEntry =>
      let r := r.skip
      match (← r.peek).kind with
      | .blockEntry | .blockEnd => blockSequence fuel start (missing token.line :: done) r
      | _ =>
        let (item, r) ← node fuel true false r
        blockSequence fuel start (item :: done) r
    | _ => .error (failure start token "did not find expected '-' indicator")

/-- The entries that stand in the block of a mapping, behind those already read. -/
def indentlessSequence (fuel : Nat) (done : List Node) (r : NodeReader) :
    Except Problem (List Node × NodeReader) :=
  match fuel with
  | 0 => .error { text := Bytes.ofString "unexpected end of stream" }
  | fuel + 1 => do
    let token ← r.peek
    match token.kind with
    | .blockEntry =>
      let r := r.skip
      match (← r.peek).kind with
      | .blockEntry | .key | .value | .blockEnd =>
        indentlessSequence fuel (missing token.line :: done) r
      | _ =>
        let (item, r) ← node fuel true false r
        indentlessSequence fuel (item :: done) r
    | _ => return (done.reverse, r)

/-- The keys and values of a block, behind those already read. -/
def blockMapping (fuel start : Nat) (done : List (Node × Node)) (r : NodeReader) :
    Except Problem (List (Node × Node) × NodeReader) :=
  match fuel with
  | 0 => .error { text := Bytes.ofString "unexpected end of stream" }
  | fuel + 1 => do
    let token ← r.peek
    match token.kind with
    | .blockEnd => return (done.reverse, r.skip)
    | .key =>
      let (key, r) ← blockPart fuel token.line r.skip
      let token ← r.peek
      let (value, r) ←
        match token.kind with
        | .value => blockPart fuel token.line r.skip
        | _ => pure (missing token.line, r)
      blockMapping fuel start ((key, value) :: done) r
    | _ => .error (failure start token "did not find expected key")

/-- A key or a value of a block, behind its token. -/
def blockPart (fuel line : Nat) (r : NodeReader) : Except Problem (Node × NodeReader) :=
  match fuel with
  | 0 => .error { text := Bytes.ofString "unexpected end of stream" }
  | fuel + 1 => do
    match (← r.peek).kind with
    | .key | .value | .blockEnd => return (missing line, r)
    | _ => node fuel true true r

/-- The entries between brackets, behind those already read. -/
def flowSequence (fuel start : Nat) (first : Bool) (done : List Node) (r : NodeReader) :
    Except Problem (List Node × NodeReader) :=
  match fuel with
  | 0 => .error { text := Bytes.ofString "unexpected end of stream" }
  | fuel + 1 => do
    let token ← r.peek
    if token.kind = .flowSequenceEnd then return (done.reverse, r.skip)
    if ¬ first ∧ token.kind ≠ .flowEntry then
      .error (failure start token "did not find expected ',' or ']'")
    let r := if first then r else r.skip
    let token ← r.peek
    match token.kind with
    | .flowSequenceEnd => return (done.reverse, r.skip)
    | .key =>
      let (pair, r) ← flowPair fuel r.skip
      let item := Node.mapping (token.line + 1) none [pair]
      flowSequence fuel start false (item :: done) r
    | _ =>
      let (item, r) ← node fuel false false r
      flowSequence fuel start false (item :: done) r

/-- A single key and its value between brackets, behind the token of the key. A token that takes the
place of the key is lost. -/
def flowPair (fuel : Nat) (r : NodeReader) : Except Problem ((Node × Node) × NodeReader) :=
  match fuel with
  | 0 => .error { text := Bytes.ofString "unexpected end of stream" }
  | fuel + 1 => do
    let token ← r.peek
    let (key, r) ←
      match token.kind with
      | .value | .flowEntry | .flowSequenceEnd => pure (missing token.line, r.skip)
      | _ => node fuel false false r
    let token ← r.peek
    if token.kind = .value then
      let r := r.skip
      let token ← r.peek
      match token.kind with
      | .flowEntry | .flowSequenceEnd => return ((key, missing token.line), r)
      | _ =>
        let (value, r) ← node fuel false false r
        return ((key, value), r)
    else return ((key, missing token.line), r)

/-- The keys and values between braces, behind those already read. -/
def flowMapping (fuel start : Nat) (first : Bool) (done : List (Node × Node)) (r : NodeReader) :
    Except Problem (List (Node × Node) × NodeReader) :=
  match fuel with
  | 0 => .error { text := Bytes.ofString "unexpected end of stream" }
  | fuel + 1 => do
    let token ← r.peek
    if token.kind = .flowMappingEnd then return (done.reverse, r.skip)
    if ¬ first ∧ token.kind ≠ .flowEntry then
      .error (failure start token "did not find expected ',' or '\x7d'")
    let r := if first then r else r.skip
    let token ← r.peek
    match token.kind with
    | .flowMappingEnd => return (done.reverse, r.skip)
    | .key =>
      let r := r.skip
      let token ← r.peek
      let (key, r) ←
        match token.kind with
        | .value | .flowEntry | .flowMappingEnd => pure (missing token.line, r)
        | _ => node fuel false false r
      let token ← r.peek
      if token.kind = .value then
        let r := r.skip
        let token ← r.peek
        let (value, r) ←
          match token.kind with
          | .flowEntry | .flowMappingEnd => pure (missing token.line, r)
          | _ => node fuel false false r
        flowMapping fuel start false ((key, value) :: done) r
      else flowMapping fuel start false ((key, missing token.line) :: done) r
    | _ =>
      let (key, r) ← node fuel false false r
      let token ← r.peek
      flowMapping fuel start false ((key, missing token.line) :: done) r

end

/-! ### Directives -/

/-- The handles that every document knows. -/
def standardHandles : List (Bytes × Bytes) :=
  [(Bytes.ofString "!", Bytes.ofString "!"), (Bytes.ofString "!!", standardTags)]

/-- The directives in front of a document. A version may be told once and has to be 1.1, and a
handle may be declared once. -/
def directives (versioned : Bool) (handles : List (Bytes × Bytes)) :
    List Token → Except Problem (List (Bytes × Bytes) × List Token)
  | ⟨.versionDirective major minor, line⟩ :: tokens =>
    if versioned then
      .error { text := Bytes.ofString "found duplicate %YAML directive", line := line }
    else if major = 1 ∧ minor = 1 then directives true handles tokens
    else .error { text := Bytes.ofString "found incompatible YAML document", line := line }
  | ⟨.tagDirective handle expansion, line⟩ :: tokens =>
    if (handles.lookup handle).isSome then
      .error { text := Bytes.ofString "found duplicate %TAG directive", line := line }
    else directives versioned ((handle, expansion) :: handles) tokens
  | tokens => .ok (handles ++ standardHandles, tokens)

end NodeReader

namespace Document

/-- Whether a token cannot begin the content of a document. -/
def isOutside : Token.Kind → Bool
  | .versionDirective .. | .tagDirective .. | .documentStart | .documentEnd | .streamEnd => true
  | _ => false

/-- Whether a document begins with directives or with its marker. -/
def isPreamble : Token.Kind → Bool
  | .versionDirective .. | .tagDirective .. | .documentStart => true
  | _ => false

/-- The content of a document that has a marker in front of it. -/
def explicitContent (fuel : Nat) (r : NodeReader) : Except Problem (Node × NodeReader) := do
  let (handles, tokens) ← NodeReader.directives false [] r.tokens
  let r := { r with handles := handles, tokens := tokens }
  let token ← r.peek
  if token.kind ≠ .documentStart then
    .error (NodeReader.failure 0 token "did not find expected <document start>")
  let r := r.skip
  let token ← r.peek
  if isOutside token.kind then return (NodeReader.missing token.line, r)
  else r.node fuel true false

/-- **The first document of a stream**, if there is one. What stands behind it is not looked at,
except that the next token has to be known. -/
def first? (s : Bytes) : Except Problem (Option Document) := do
  let scanned := Lexer.scan (← glyphs s)
  let size := scanned.tokens.length
  let fuel := 3 * size + 3
  let r : NodeReader :=
    { tokens := scanned.tokens, problem := scanned.problem, handles := NodeReader.standardHandles }
  let token ← r.peek
  if token.kind = .streamEnd then return none
  else
    let (root, r) ←
      if isPreamble token.kind then explicitContent fuel r else r.node fuel true false
    let _ ← r.peek
    return some { root := root, anchored := r.anchored, aliases := r.aliases, size := size }

end Document

end OnePass.Yaml
