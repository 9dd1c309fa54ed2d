import OnePass.Text.Bytes

/-
**Nodes.**

A document is a tree of nodes.  A node may have a tag, and an anchor by which aliases refer to it;
an alias inside of the anchored node itself is possible, so aliases are kept as references and the
anchored nodes in a table.

Main definitions:

* `OnePass.Yaml.Node` — a node;
* `OnePass.Yaml.Document` — a tree and the anchored nodes in it;
* `OnePass.Yaml.shortTag` — the short form of a tag.
-/

set_option relaxedAutoImplicit false
set_option autoImplicit false

namespace OnePass.Yaml

/-! ### Nodes -/

/-- A node, with its line counted from one and its tag in short form. -/
inductive Node where
  /-- A scalar, and whether it stands without quotes or another indicator. -/
  | scalar (line : Nat) (tag : Option Bytes) (plain : Bool) (text : List Char)
  /-- A sequence of nodes. -/
  | sequence (line : Nat) (tag : Option Bytes) (items : List Node)
  /-- Keys and their values. -/
  | mapping (line : Nat) (tag : Option Bytes) (pairs : List (Node × Node))
  /-- A reference by a name: the number of the reference and that of the anchored node. -/
  | alias (line : Nat) (name : Bytes) (number anchor : Nat)

/-- The line of a node. -/
def Node.line : Node → Nat
  | .scalar line .. => line
  | .sequence line .. => line
  | .mapping line .. => line
  | .alias line .. => line

/-- A document: a tree, the anchored nodes by their numbers, and its size. -/
structure Document where
  /-- The tree. -/
  root : Node
  /-- The anchored nodes. -/
  anchored : List (Nat × Node)
  /-- The number of aliases. -/
  aliases : Nat
  /-- The number of tokens, which bounds the depth of the tree. -/
  size : Nat

/-! ### Tags -/

/-- What the tags of YAML itself begin with. -/
def standardTags : Bytes :=
  Bytes.ofString "tag:yaml.org,2002:"

/-- A tag in short form: those of YAML itself begin with two exclamation marks. -/
def shortTag (tag : Bytes) : Bytes :=
  if standardTags.isPrefixOf tag then
    Bytes.ofString "!!" ++ tag.drop standardTags.length
  else tag

end OnePass.Yaml
