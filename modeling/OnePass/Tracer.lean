import OnePass.Assembler
import OnePass.Log

/-
**Tracing an assembly.**

A tracer is a hook that logs every word as it is emitted, and the end of an assembly that went well.
-/

set_option relaxedAutoImplicit false
set_option autoImplicit false

namespace OnePass

/-- What a tracer logs of an event. -/
def Event.entry : Event → Log.Entry
  | .wordEmitted record =>
    { level := Log.trace
      message := Bytes.ofString "WordEmitted"
      values :=
        [("line", .number record.line), ("mnemonic", .text record.mnemonic),
         ("role", .text record.role.name), ("word", .text record.word)] }
  | .done program =>
    { level := Log.trace
      message := Bytes.ofString "AssembleDone"
      values := [("words", .number program.size)] }

/-- A hook that logs every event. -/
inductive Tracer where
  /-- The only tracer that is needed. -/
  | tracer
  deriving DecidableEq, Repr

/-- The name that tracers see of an assembler. -/
def tracedName : Bytes :=
  Bytes.ofString "Asm"

/-- The assembly of a source, and what a tracer logs if one is attached. -/
def assembleTraced (catalog : Catalog) (attached : Bool) (source : LineSource) :
    Assembly × List Log.Entry :=
  let assembler : Assembler Tracer :=
    { name := tracedName, catalog := catalog, hooks := if attached then [.tracer] else [] }
  let (assembly, calls) := assembler.run source
  (assembly, calls.map (·.event.entry))

end OnePass
