import OnePass.Text.Quoted
import OnePass.Yaml.Value

/-
**From nodes to values.**

A node is decoded with a kind of value in mind.  A node of another kind is an issue, which is noted
with its line, and decoding goes on; a node that makes no sense at all is a problem, which ends it.
A node that stands for nothing leaves a value as it is.

Main definitions:

* `OnePass.Yaml.Decode` — decoding that may meet problems and notes issues;
* `OnePass.Yaml.decodeText`, `OnePass.Yaml.decodeInt`, `OnePass.Yaml.decodeList` — single values and
  lists;
* `OnePass.Yaml.Schema` — the fields of a record;
* `OnePass.Yaml.decodeRecord` — **a record**, with the mappings that are merged into it.
-/

set_option relaxedAutoImplicit false
set_option autoImplicit false

namespace OnePass.Yaml

open Bytes (ofString ofNat)

/-! ### Decoding -/

/-- What decoding has met so far. -/
structure Tally where
  /-- The issues noted. -/
  issues : Array Bytes := #[]
  /-- The number of nodes visited. The document itself counts as one. -/
  visits : Nat := 1
  /-- The number of visits that an alias led to. -/
  borrowed : Nat := 0

/-- Whether too large a part of the visits is due to aliases. Up to 400000 visits this is more than
99 percent; from there on the part allowed shrinks evenly, down to ten percent at 4000000 visits.
A hundred visits of this kind, and a thousand in all, are never too many. -/
def Tally.isExcessive (t : Tally) : Bool :=
  let allowed := 99 * 3600000 - 89 * (min t.visits 4000000 - 400000)
  100 < t.borrowed && 1000 < t.visits && t.visits * allowed < t.borrowed * 360000000

/-- Decoding that may meet problems and notes issues. -/
abbrev Decode (α : Type) := StateT Tally (Except Problem) α

/-- Notes an issue at a line. -/
def note (line : Nat) (text : Bytes) : Decode Unit :=
  modify fun t =>
    { t with issues := t.issues.push (ofString "line " ++ ofNat line ++ ofString ": " ++ text) }

/-- Ends decoding. -/
def refuse {α : Type} (text : Bytes) : Decode α :=
  throw { text := text }

/-- The document that is decoded, and the aliases that have been followed to get where one is. -/
structure Scope where
  /-- The document. -/
  document : Document
  /-- The numbers of the aliases. -/
  active : List Nat := []

/-- Counts a visit to a node. -/
def Scope.visit (scope : Scope) : Decode Unit := do
  modify fun t =>
    { t with
      visits := t.visits + 1
      borrowed := if scope.active.isEmpty then t.borrowed else t.borrowed + 1 }
  if (← get).isExcessive then refuse (ofString "document contains excessive aliasing")

/-- Visits a node, and the node that it refers to if it is an alias. An alias inside of the node
that it refers to is a problem once it is met again. -/
def Scope.follow (scope : Scope) (node : Node) : Decode (Scope × Node) := do
  scope.visit
  match node with
  | .alias _ name number anchor =>
    if scope.active.contains number then
      refuse (ofString "anchor '" ++ name ++ ofString "' value contains itself")
    else
      match scope.document.anchored.lookup anchor with
      | some target =>
        let inner := { scope with active := number :: scope.active }
        inner.visit
        return (inner, target)
      | none => refuse (ofString "unknown anchor '" ++ name ++ ofString "' referenced")
  | node => return (scope, node)

/-! ### Issues -/

/-- A text cut short, if it has more than ten bytes. -/
def excerpt (s : Bytes) : Bytes :=
  if 10 < s.length then s.take 7 ++ ofString "..." else s

/-- Notes that a node is not of the kind that is wanted. -/
def noteMismatch (line : Nat) (tag s : Bytes) (wanted : String) : Decode Unit :=
  let shown :=
    if tag = sequenceTag ∨ tag = mappingTag then []
    else ofString " \x60" ++ excerpt s ++ ofString "\x60"
  note line (ofString "cannot unmarshal " ++ tag ++ shown ++ ofString " into " ++ ofString wanted)

/-- What makes two keys the same: the kind of node and its text. -/
def Node.identity : Node → Nat × Bytes
  | .scalar _ _ _ text => (0, Utf8.encode text)
  | .sequence .. => (1, [])
  | .mapping .. => (2, [])
  | .alias _ name _ _ => (3, name)

/-- The later ones of equal keys, each with the key that it repeats. -/
def repeatedKeys : List Node → List (Node × Node)
  | [] => []
  | key :: keys =>
    (keys.filter (·.identity == key.identity)).map (·, key) ++ repeatedKeys keys

/-- Notes the keys that are repeated, and tells whether there are none. -/
def checkKeys (pairs : List (Node × Node)) : Decode Bool := do
  let repeated := repeatedKeys (pairs.map (·.1))
  for (later, earlier) in repeated do
    note later.line (ofString "mapping key " ++ Text.quote later.identity.2
      ++ ofString " already defined at line " ++ ofNat earlier.line)
  return repeated.isEmpty

/-! ### Single values -/

/-- Decodes a node that has to be a scalar of some kind. -/
def decodeScalar {α : Type} (wanted : String) (accept : Bytes → Value → Option α) (scope : Scope)
    (node : Node) : Decode (Option α) := do
  let (_, node) ← scope.follow node
  match node with
  | .scalar line tag plain text =>
    let (tag, value) ← (resolve tag plain text : Except Problem _)
    if value = .null then return none
    let s := Utf8.encode text
    match accept s value with
    | some a => return some a
    | none =>
      noteMismatch line tag s wanted
      return none
  | .sequence line tag _ =>
    noteMismatch line (tag.getD sequenceTag) [] wanted
    return none
  | .mapping line tag pairs =>
    if ← checkKeys pairs then noteMismatch line (tag.getD mappingTag) [] wanted
    return none
  | .alias .. => return none

/-- A scalar of any kind is a text: as it was written, unless the value is a text of its own. -/
def decodeText : Scope → Node → Decode (Option Bytes) :=
  decodeScalar "string" fun written value =>
    match value with
    | .text s => some s
    | _ => some written

/-- A floating-point number as an integer of 64 bits: the fraction is cut off, and what is too small
becomes the least one, as does the first number that is too large. -/
def integerOfFloat? : Binary64 → Option Int
  | .nan => none
  | .infinity negative => if negative then some leastSigned else none
  | x => x.truncate?.bind fun n =>
    if -leastSigned < n then none
    else if fitsSigned n then some n
    else some leastSigned

/-- Numbers that fit in 64 bits are integers. -/
def decodeInt : Scope → Node → Decode (Option Int) :=
  decodeScalar "int" fun _ value =>
    match value with
    | .int n => if fitsSigned n then some n else none
    | .float x => integerOfFloat? x
    | _ => none

/-- The entries of a sequence; those that stand for nothing are left out. Nothing is the empty list.
-/
def decodeList {α : Type} (wanted : String) (item : Scope → Node → Decode (Option α))
    (scope : Scope) (node : Node) : Decode (Option (List α)) := do
  let (scope, node) ← scope.follow node
  match node with
  | .sequence _ _ items =>
    let decoded ← items.mapM (item scope)
    return some (decoded.filterMap id)
  | .scalar line tag plain text =>
    let (tag, value) ← (resolve tag plain text : Except Problem _)
    if value = .null then return some []
    noteMismatch line tag (Utf8.encode text) wanted
    return none
  | .mapping line tag pairs =>
    if ← checkKeys pairs then noteMismatch line (tag.getD mappingTag) [] wanted
    return none
  | .alias .. => return none

/-! ### Records -/

/-- How a field of a record is set from a node. -/
structure Field (σ : Type) where
  /-- The name of the field. -/
  name : String
  /-- The record with the field set. -/
  set : Scope → Node → σ → Decode σ

/-- The fields of a record. -/
structure Schema (σ : Type) where
  /-- The name of the kind of record. -/
  wanted : String
  /-- The fields. -/
  fields : List (Field σ)

/-- A field that is set to a decoded value, and left as it is by nothing. -/
def Field.of {σ α : Type} (name : String) (decode : Scope → Node → Decode (Option α))
    (set : σ → α → σ) : Field σ where
  name := name
  set scope node record := do
    match ← decode scope node with
    | some a => return set record a
    | none => return record

/-- Whether a key asks for another mapping to be merged. -/
def isMerge : Node → Bool
  | .scalar _ tag plain text =>
    text == "<<".toList && (tag == some mergeTag || (tag.isNone && plain))
  | _ => false

/-- The text that a key of a mapping stands for, if it stands for one. -/
def keyText? (scope : Scope) (key : Node) : Decode (Option Bytes) := do
  let (_, key) ← scope.follow key
  match key with
  | .scalar _ tag plain text =>
    let (_, value) ← (resolve tag plain text : Except Problem _)
    match value with
    | .text s => return some s
    | _ => return none
  | _ => return none

/-- The names that a mapping merged into another one may not set: those that are taken already, or
the keys of the mapping itself. -/
def takenNames (scope : Scope) (taken : Option (List Bytes)) (pairs : List (Node × Node)) :
    Decode (List Bytes) := do
  match taken with
  | some names => return names
  | none =>
    let names ← pairs.mapM fun pair => keyText? scope pair.1
    return names.filterMap id

/-- A record while its mapping is decoded. -/
structure Filling (σ : Type) where
  /-- The record. -/
  record : σ
  /-- The names that mappings merged later on may not set any more, if this mapping is merged
  itself. -/
  taken : Option (List Bytes)
  /-- The fields that have been set. -/
  filled : List String := []
  /-- The mapping to be merged. -/
  merged : Option Node := none

/-- One key and its value. -/
def fillPair {σ : Type} (schema : Schema σ) (scope : Scope) (f : Filling σ) (pair : Node × Node) :
    Decode (Filling σ) := do
  let (key, value) := pair
  if isMerge key then return { f with merged := some value }
  match ← decodeText scope key with
  | none => return f
  | some name =>
    if (f.taken.getD []).contains name then return f
    let f := { f with taken := f.taken.map (name :: ·) }
    match schema.fields.find? (ofString ·.name == name) with
    | none =>
      note key.line
        (ofString "field " ++ name ++ ofString " not found in type " ++ ofString schema.wanted)
      return f
    | some field =>
      if f.filled.contains field.name then
        note key.line
          (ofString "field " ++ name ++ ofString " already set in type " ++ ofString schema.wanted)
        return f
      let record ← field.set scope value f.record
      return { f with record := record, filled := field.name :: f.filled }

/-- What is said about a merge key whose value is no mapping. -/
def badMerge : Bytes :=
  ofString "map merge requires map or sequence of maps as the value"

/-- The mappings that the value of a merge key stands for. -/
def mergeSources (scope : Scope) (node : Node) : Decode (List Node) :=
  match node with
  | .sequence _ _ items => do
    items.forM check
    return items
  | node => do
    check node
    return [node]
where
  /-- Refuses a node that is no mapping. -/
  check (node : Node) : Decode Unit :=
    match node with
    | .mapping .. => return ()
    | .alias _ _ _ anchor =>
      match scope.document.anchored.lookup anchor with
      | some (.mapping ..) => return ()
      | some _ => refuse badMerge
      | none => return ()
    | _ => refuse badMerge

/-- **A record.** Of a mapping that is merged into another one, `taken` lists the names that are set
already; the answer has those that are set afterwards. -/
def decodeRecord {σ : Type} (schema : Schema σ) (fuel : Nat) (scope : Scope)
    (taken : Option (List Bytes)) (node : Node) (record : σ) :
    Decode (Option σ × Option (List Bytes)) :=
  match fuel with
  | 0 => refuse (ofString "document contains excessive aliasing")
  | fuel + 1 => do
    let (scope, node) ← scope.follow node
    match node with
    | .mapping _ _ pairs =>
      if !(← checkKeys pairs) then return (none, taken)
      let f ← pairs.foldlM (fillPair schema scope) { record := record, taken := taken }
      match f.merged with
      | none => return (some f.record, f.taken)
      | some merged =>
        let names ← takenNames scope f.taken pairs
        let sources ← mergeSources scope merged
        let (record, names) ← sources.foldlM
          (fun (record, names) source => do
            let (result, names) ← decodeRecord schema fuel scope names source record
            return (result.getD record, names))
          (f.record, some names)
        return (some record, if taken.isSome then names else none)
    | .scalar line tag plain text =>
      let (tag, value) ← (resolve tag plain text : Except Problem _)
      if value ≠ .null then noteMismatch line tag (Utf8.encode text) schema.wanted
      return (none, taken)
    | .sequence line tag _ =>
      noteMismatch line (tag.getD sequenceTag) [] schema.wanted
      return (none, taken)
    | .alias .. => return (none, taken)

/-- Enough steps to decode any record of a document: aliases are not followed inside of themselves,
so a chain of merges is no longer than this. -/
def Document.fuel (document : Document) : Nat :=
  (document.aliases + 1) * (document.size + 1)

end OnePass.Yaml
