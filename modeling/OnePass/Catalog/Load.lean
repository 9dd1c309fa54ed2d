import OnePass.Catalog.Table
import OnePass.Yaml.Decode

/-
**Loading a catalog.**

An instruction table is written as a YAML document.  Loading reads the first document of a text,
decodes it as a table and builds the catalog.

Main definitions:

* `OnePass.Catalog.LoadError` — why a text gives no catalog;
* `OnePass.Catalog.load` — **the catalog of a text**.
-/

set_option relaxedAutoImplicit false
set_option autoImplicit false

namespace OnePass

open Bytes (ofString)

namespace Table

/-- The fields of an entry. -/
def entrySchema : Yaml.Schema Entry where
  wanted := "isa.entryDoc"
  fields :=
    [ .of "mnemonic" Yaml.decodeText fun entry s => { entry with mnemonic := s },
      .of "opcode" Yaml.decodeText fun entry s => { entry with opcode := s },
      .of "args" Yaml.decodeInt fun entry n => { entry with args := n } ]

/-- An entry. -/
def decodeEntry (scope : Yaml.Scope) (node : Yaml.Node) : Yaml.Decode (Option Entry) := do
  let (entry, _) ← Yaml.decodeRecord entrySchema scope.document.fuel scope none node {}
  return entry

/-- The fields of a table. -/
def schema : Yaml.Schema Table where
  wanted := "isa.tableDoc"
  fields :=
    [ .of "name" Yaml.decodeText fun table s => { table with name := s },
      .of "word_size" Yaml.decodeInt fun table n => { table with wordSize := n },
      .of "instructions" (Yaml.decodeList "[]isa.entryDoc" decodeEntry) fun table entries =>
        { table with entries := entries } ]

/-- The table of a document, and the issues with it. -/
def decode (document : Yaml.Document) : Except Yaml.Problem (Table × Array Bytes) := do
  let ((table, _), tally) ←
    (Yaml.decodeRecord schema document.fuel { document := document } none document.root {}).run {}
  return (table.getD {}, tally.issues)

end Table

namespace Catalog

/-- Why a text gives no catalog. -/
inductive LoadError where
  /-- There is no document. -/
  | empty
  /-- The text is not YAML that can be decoded. -/
  | malformed (problem : Yaml.Problem)
  /-- The document is not a table. -/
  | mistyped (issues : List Bytes)
  /-- The table is refused. -/
  | refused (error : Table.Error)
  deriving DecidableEq, Repr

/-- What is said about a text that gives no catalog. -/
def LoadError.message : LoadError → Bytes
  | .empty => ofString "instruction table is empty"
  | .malformed problem => ofString "failed to decode instruction table: " ++ problem.message
  | .mistyped issues =>
    ofString "failed to decode instruction table: yaml: unmarshal errors:"
      ++ issues.flatMap fun issue => ofString "\n  " ++ issue
  | .refused error => error.message

/-- **The catalog of a text.** -/
def load (text : Bytes) : Except LoadError Catalog :=
  match Yaml.Document.first? text with
  | .error problem => .error (.malformed problem)
  | .ok none => .error .empty
  | .ok (some document) =>
    match Table.decode document with
    | .error problem => .error (.malformed problem)
    | .ok (table, issues) =>
      if issues.isEmpty then
        match table.build with
        | .error error => .error (.refused error)
        | .ok catalog => .ok catalog
      else .error (.mistyped issues.toList)

end Catalog

end OnePass
