import OnePass.Fault

/-
**Line writers.**

An image is written line by line to anything that takes lines.  A writer may refuse a line with a
fault.

Main definitions:

* `OnePass.LineWriter` — the class of writers;
* `OnePass.LineShelf` — a writer that keeps its lines, and refuses the one with a given number.
-/

set_option relaxedAutoImplicit false
set_option autoImplicit false

namespace OnePass

/-- Writers to which lines are handed one at a time. -/
class LineWriter (W : Type) where
  /-- Hands over a line: the fault if it is refused, and the writer behind it. -/
  writeLine : W → Bytes → Option Fault × W

export LineWriter (writeLine)

/-- Hands over lines until one is refused. -/
def writeLines {W : Type} [LineWriter W] (writer : W) : List Bytes → Option Fault × W
  | [] => (none, writer)
  | line :: lines =>
    match writeLine writer line with
    | (some fault, writer') => (some fault, writer')
    | (none, writer') => writeLines writer' lines

/-- A writer that keeps the lines it takes. -/
structure LineShelf where
  /-- The lines taken. -/
  lines : Array Bytes := #[]
  /-- The number of the line that is refused, counted from one; zero if there is none. -/
  refused : Nat := 0
  /-- The fault with which it is refused. -/
  fault : Fault := .plain []

/-- Puts a line on the shelf, unless it is the one to be refused. -/
def LineShelf.put (shelf : LineShelf) (line : Bytes) : Option Fault × LineShelf :=
  if shelf.lines.size + 1 = shelf.refused then (some shelf.fault, shelf)
  else (none, { shelf with lines := shelf.lines.push line })

instance : LineWriter LineShelf where
  writeLine := LineShelf.put

end OnePass
