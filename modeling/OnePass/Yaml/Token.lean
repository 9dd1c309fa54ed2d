import OnePass.Text.Bytes

/-
**The tokens of YAML.**

Indentation is made explicit by tokens that open and close blocks, so that what follows can ignore
columns altogether.

Main definitions:

* `OnePass.Yaml.Token` — a token and the line where it starts;
* `OnePass.Yaml.Token.Kind` — the kinds of tokens.
-/

set_option relaxedAutoImplicit false
set_option autoImplicit false

namespace OnePass.Yaml

/-- The kinds of tokens. -/
inductive Token.Kind where
  /-- The stream is used up. -/
  | streamEnd
  /-- A directive that tells the version of YAML. -/
  | versionDirective (major minor : Nat)
  /-- A directive that tells what a tag handle stands for. -/
  | tagDirective (handle expansion : Bytes)
  /-- The marker in front of a document. -/
  | documentStart
  /-- The marker behind a document. -/
  | documentEnd
  /-- A block of entries begins. -/
  | blockSequenceStart
  /-- A block of keys and values begins. -/
  | blockMappingStart
  /-- A block ends. -/
  | blockEnd
  /-- A bracketed sequence begins. -/
  | flowSequenceStart
  /-- A bracketed sequence ends. -/
  | flowSequenceEnd
  /-- A braced mapping begins. -/
  | flowMappingStart
  /-- A braced mapping ends. -/
  | flowMappingEnd
  /-- An entry of a block begins. -/
  | blockEntry
  /-- The comma between entries. -/
  | flowEntry
  /-- A key follows. -/
  | key
  /-- A value follows. -/
  | value
  /-- A reference to an anchored node. -/
  | alias (name : Bytes)
  /-- A name for the node that follows. -/
  | anchor (name : Bytes)
  /-- A tag for the node that follows; one without a handle is complete. -/
  | tag (handle suffix : Bytes)
  /-- A scalar, and whether it stands without quotes or another indicator. -/
  | scalar (plain : Bool) (text : List Char)
  deriving DecidableEq, Repr

/-- A token and the line where it starts, counted from zero. -/
structure Token where
  /-- What it is. -/
  kind : Token.Kind
  /-- Where it starts. -/
  line : Nat
  deriving DecidableEq, Repr

end OnePass.Yaml
