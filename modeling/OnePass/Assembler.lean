import OnePass.Catalog.BuiltIn
import OnePass.Machine
import OnePass.Source.Sanitize
import OnePass.Source.Scanner

/-
**Assembling a source.**

An assembler feeds the tokens of a source to a token machine, line by line, until the source ends or
a token is refused.  Lines are numbered from one, and blank lines count.  Observers called hooks are
told of every word as it is emitted and, if all goes well, of the finished program.

Main definitions:

* `OnePass.Assembly` — what became of a source: the words emitted, the fault if there was one, and
  what is left of the source;
* `OnePass.Event` — what an observer is told;
* `OnePass.assembleWatched` — the assembly of a source under observation;
* `OnePass.assemble` — **the assembly of a source** under a catalog;
* `OnePass.Assembler`, `OnePass.Assembler.Builder` — a catalog with hooks attached.
-/

set_option relaxedAutoImplicit false
set_option autoImplicit false

namespace OnePass

/-! ### One source -/

/-- What became of a source. -/
structure Assembly where
  /-- The words emitted, also those in front of a fault. -/
  program : Program
  /-- Why the assembly stopped, unless all went well. -/
  fault : Option Fault
  /-- What is left of the source. -/
  source : LineSource

/-- The program of an assembly that went well, or its fault. -/
def Assembly.result (assembly : Assembly) : Except Fault Program :=
  match assembly.fault with
  | none => .ok assembly.program
  | some fault => .error fault

/-- The fault of a source that could not be read further. -/
def readFault (cause : Fault) : Fault :=
  .inputOutput (Bytes.ofString "read source") [] (some cause)

/-- What an observer of an assembly is told. -/
inductive Event where
  /-- A word has been emitted. -/
  | wordEmitted (record : Record)
  /-- The whole source has been assembled. -/
  | done (program : Program)
  deriving DecidableEq, Repr

/-- The name of the moment at which an event happens. -/
def Event.position : Event → Bytes
  | .wordEmitted _ => Bytes.ofString "Asm Word Emitted"
  | .done _ => Bytes.ofString "Asm Done"

/-- The end of a source, and what the observer knows then. -/
def assembleEnd {σ : Type} (watch : Event → σ → σ) (ending : Fault) (m : Machine) (seen : σ) :
    Assembly × σ :=
  let fault := if ending.isEndOfInput then m.finish else some (readFault ending)
  (⟨m.program, fault, ⟨[], ending⟩⟩, if fault.isNone then watch (.done m.program) seen else seen)

/-- What becomes of the lines behind the first `number` ones, and what the observer `watch` knows at
the end if it knows `seen` before. -/
def assembleLines {σ : Type} (watch : Event → σ → σ) (ending : Fault) (m : Machine)
    (number : Nat) (seen : σ) : List Bytes → Assembly × σ
  | [] => assembleEnd watch ending m seen
  | line :: lines =>
    match Source.sanitize line with
    | [] => assembleLines watch ending m (number + 1) seen lines
    | b :: token =>
      match m.feed (b :: token) (number + 1 : Nat) with
      | .error fault => (⟨m.program, some fault, ⟨lines, ending⟩⟩, seen)
      | .ok (record, m') =>
        assembleLines watch ending m' (number + 1) (watch (.wordEmitted record) seen) lines

/-- The assembly of a source under observation. -/
def assembleWatched {σ : Type} (watch : Event → σ → σ) (seen : σ) (catalog : Catalog)
    (source : LineSource) : Assembly × σ :=
  assembleLines watch source.ending { catalog := catalog } 0 seen source.lines

/-- **The assembly of a source.** -/
def assemble (catalog : Catalog) (source : LineSource) : Assembly :=
  (assembleWatched (fun _ seen => seen) () catalog source).1

/-! ### Hooks -/

/-- An assembler with hooks, which are told apart by values of `Hook`. -/
structure Assembler (Hook : Type) where
  /-- The name that hooks see. -/
  name : Bytes
  /-- The instructions that it knows. -/
  catalog : Catalog
  /-- The hooks in the order in which they are called. -/
  hooks : List Hook := []

namespace Assembler

variable {Hook : Type}

/-- Why an assembler cannot be had. -/
inductive Refusal where
  /-- There is no catalog to work with. -/
  | noCatalog
  /-- The hook is attached already. -/
  | duplicatedHook
  deriving DecidableEq, Repr

/-- What is said of an assembler that cannot be had. -/
def Refusal.message : Refusal → Bytes
  | .noCatalog => Bytes.ofString "assembler needs an instruction catalog"
  | .duplicatedHook => Bytes.ofString "duplicated hook"

/-- The assembler with one more hook at the end. -/
def acceptHook [BEq Hook] (a : Assembler Hook) (hook : Hook) : Except Refusal (Assembler Hook) :=
  if a.hooks.contains hook then .error .duplicatedHook
  else .ok { a with hooks := a.hooks ++ [hook] }

/-- One call of a hook. -/
structure Call (Hook : Type) where
  /-- The hook that is called. -/
  hook : Hook
  /-- The name of the assembler that calls it. -/
  caller : Bytes
  /-- What it is told. -/
  event : Event
  deriving Repr

/-- Tells all hooks of an event, one after another. The calls made are listed with the last one
first. -/
def notify (a : Assembler Hook) (event : Event) (calls : List (Call Hook)) : List (Call Hook) :=
  a.hooks.foldl (fun calls hook => ⟨hook, a.name, event⟩ :: calls) calls

/-- The assembly of a source and the calls made on the way. -/
def run (a : Assembler Hook) (source : LineSource) : Assembly × List (Call Hook) :=
  let (assembly, calls) := assembleWatched a.notify [] a.catalog source
  (assembly, calls.reverse)

/-- A plan for assemblers. -/
structure Builder (Hook : Type) where
  /-- The catalog to use, if one was given. -/
  catalog : Option Catalog := some Catalog.builtIn
  /-- The hooks to attach. -/
  hooks : List Hook := []

namespace Builder

/-- The plan with another catalog. -/
def withCatalog (b : Builder Hook) (catalog : Option Catalog) : Builder Hook :=
  { b with catalog := catalog }

/-- The plan with one more hook. -/
def withHook (b : Builder Hook) (hook : Hook) : Builder Hook :=
  { b with hooks := b.hooks ++ [hook] }

/-- The assembler of a plan. -/
def build [BEq Hook] (b : Builder Hook) (name : Bytes) : Except Refusal (Assembler Hook) :=
  match b.catalog with
  | none => .error .noCatalog
  | some catalog => b.hooks.foldlM acceptHook { name := name, catalog := catalog }

end Builder

end Assembler

end OnePass
