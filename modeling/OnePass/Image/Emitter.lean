import OnePass.Image.Writer
import OnePass.Program

/-
**Memory images.**

An image has one word per line: the words of a program and behind them words of zeros, up to the
size of the memory.  A program that is larger than the memory is written in full.

Main definitions:

* `OnePass.Emitter` — the size of a word and of the memory;
* `OnePass.Summary` — how many lines were written;
* `OnePass.Emitter.image` — the lines of an image;
* `OnePass.Emitter.emit` — **writes an image**, line by line.
-/

set_option relaxedAutoImplicit false
set_option autoImplicit false

namespace OnePass

/-- The number of words in the instruction memory of the processor. -/
def memoryWords : Nat := 128

/-- How many lines an image has. -/
structure Summary where
  /-- The number of words of the program. -/
  words : Int
  /-- The number of zero words behind them. -/
  padding : Int
  deriving DecidableEq, Repr

/-- The number of lines in all. -/
def Summary.total (summary : Summary) : Int :=
  summary.words + summary.padding

/-- The layout of an image. -/
structure Emitter where
  /-- The number of bits in a word of zeros. -/
  wordSize : Nat := 8
  /-- The number of words that the memory holds. -/
  memoryWords : Nat := OnePass.memoryWords
  deriving DecidableEq, Repr

namespace Emitter

/-! ### Layouts -/

/-- Why a layout is refused. -/
inductive Refusal where
  /-- A word has to have at least one bit. -/
  | wordSizeNotPositive
  /-- A memory cannot have fewer than no words. -/
  | negativeMemory
  deriving DecidableEq, Repr

/-- What is said of a refused layout. -/
def Refusal.message : Refusal → Bytes
  | .wordSizeNotPositive => Bytes.ofString "word size must be positive"
  | .negativeMemory => Bytes.ofString "memory size must not be negative"

/-- The layout with words of another size. -/
def withWordSize (e : Emitter) (bits : Int) : Except Refusal Emitter :=
  if bits ≤ 0 then .error .wordSizeNotPositive else .ok { e with wordSize := bits.toNat }

/-- The layout with a memory of another size. -/
def withMemoryWords (e : Emitter) (n : Int) : Except Refusal Emitter :=
  if n < 0 then .error .negativeMemory else .ok { e with memoryWords := n.toNat }

/-! ### Images -/

/-- The number of zero words behind a program. -/
def paddingFor (e : Emitter) (program : Program) : Nat :=
  e.memoryWords - program.size

/-- The lines of an image. -/
def image (e : Emitter) (program : Program) : List Bytes :=
  program.words ++ List.replicate (e.paddingFor program) (Word.zero e.wordSize)

/-- What became of an image. -/
structure Emission (W : Type) where
  /-- Why the writing stopped, unless all went well. -/
  fault : Option Fault
  /-- The size of the program and the number of zero words written. -/
  summary : Summary
  /-- The writer behind the last line. -/
  writer : W

/-- The fault of an image that could not be written further. -/
def writeFault (cause : Fault) : Fault :=
  .inputOutput (Bytes.ofString "write output") [] (some cause)

/-- Writes the same line over and over: the fault at which it stopped, the number of lines that were
taken, and the writer. -/
def fill {W : Type} [LineWriter W] (line : Bytes) (writer : W) (taken : Nat) :
    Nat → Option Fault × Nat × W
  | 0 => (none, taken, writer)
  | n + 1 =>
    match writeLine writer line with
    | (some fault, writer') => (some fault, taken, writer')
    | (none, writer') => fill line writer' (taken + 1) n

/-- **Writes an image**, line by line, until a line is refused. -/
def emit {W : Type} [LineWriter W] (e : Emitter) (writer : W) (program : Program) : Emission W :=
  match writeLines writer program.words with
  | (some fault, writer') => ⟨some (writeFault fault), ⟨program.size, 0⟩, writer'⟩
  | (none, writer') =>
    let (fault, taken, writer'') :=
      fill (Word.zero e.wordSize) writer' 0 (e.paddingFor program)
    ⟨fault.map writeFault, ⟨program.size, taken⟩, writer''⟩

end Emitter

end OnePass
