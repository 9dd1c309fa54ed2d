import OnePass.Fault

/-
**Line sources.**

A source hands out its lines one at a time and then ends.  How it ends is a fault: the end of the
input if the source is used up, anything else if it could not be read further.  Once a source has
ended it stays ended, with the same fault.

Main definitions:

* `OnePass.LineSource` — the lines to come and the fault behind them;
* `OnePass.LineSource.readLine` — the next line, or the end.
-/

set_option relaxedAutoImplicit false
set_option autoImplicit false

namespace OnePass

/-- A source of lines: those still to come, and the fault that every reading behind them meets. -/
structure LineSource where
  /-- The lines still to come. -/
  lines : List Bytes
  /-- How the source ends. -/
  ending : Fault := .endOfInput

namespace LineSource

/-- The next line, or the end, together with what is left of the source. -/
def readLine (source : LineSource) : Except Fault Bytes × LineSource :=
  match source.lines with
  | [] => (.error source.ending, source)
  | line :: lines => (.ok line, { source with lines := lines })

/-- Reading on until `ends` further ends have been met gives all lines and that many faults. -/
def readAll (source : LineSource) (ends : Nat) : List Bytes × List Fault :=
  (source.lines, List.replicate ends source.ending)

end LineSource

end OnePass
