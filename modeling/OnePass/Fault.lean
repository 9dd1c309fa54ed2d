import OnePass.Text.Quoted

/-
**Faults.**

What can go wrong is a tree.  Five kinds of fault belong to the assembler and carry an exit code of
their own; others are plain texts, or stand around the faults they were caused by.

Main definitions:

* `OnePass.Fault` — the tree;
* `OnePass.Fault.text` — what a fault says;
* `OnePass.Fault.preorder` — the faults of a tree, a fault in front of those it holds;
* `OnePass.Fault.exitCode` — **the exit code**: that of the first fault in this order that has one;
* `OnePass.Fault.isEndOfInput` — the tree says that a source is used up.
-/

set_option relaxedAutoImplicit false
set_option autoImplicit false

namespace OnePass

open Bytes (ofString ofInt)

/-- A fault, possibly with the faults that caused it. -/
inductive Fault where
  /-- The command line cannot be followed. -/
  | invocation (reason : Bytes)
  /-- A file could not be opened, read or written. -/
  | inputOutput (op path : Bytes) (cause : Option Fault)
  /-- A token stands where a mnemonic is due and is none. -/
  | unknownCommand (line : Int) (token : Bytes)
  /-- The source ends inside an instruction that began at `line`. -/
  | unexpectedEnd (mnemonic : Bytes) (line missing : Int)
  /-- A token stands where an operand is due and does not fit in a word. -/
  | invalidArgument (line : Int) (mnemonic text : Bytes) (width : Int)
  /-- The source is used up. -/
  | endOfInput
  /-- Anything else, known only by what it says. -/
  | plain (text : Bytes)
  /-- A fault told in a context. -/
  | context (text : Bytes) (cause : Option Fault)
  /-- Several faults at once. -/
  | several (causes : List Fault)

namespace Fault

/-! ### What a fault says -/

mutual

/-- What a fault says. -/
def text : Fault → Bytes
  | .invocation reason => reason
  | .inputOutput op path cause =>
    op ++ (if path = [] then [] else ofString " " ++ path) ++ ofString ": "
      ++ textOr (ofString "<nil>") cause
  | .unknownCommand line token =>
    ofString "line " ++ ofInt line ++ ofString ": unknown command " ++ Text.quote token
  | .unexpectedEnd mnemonic line missing =>
    ofString "line " ++ ofInt line ++ ofString ": end of input while " ++ mnemonic
      ++ ofString " still expects " ++ ofInt missing ++ ofString " argument(s)"
  | .invalidArgument line mnemonic token width =>
    ofString "line " ++ ofInt line ++ ofString ": invalid argument " ++ Text.quote token
      ++ ofString " for " ++ mnemonic ++ ofString ", expected a binary string of at most "
      ++ ofInt width ++ ofString " bits"
  | .endOfInput => ofString "EOF"
  | .plain text => text
  | .context text cause => text ++ ofString ": " ++ textOr (ofString "%!w(<nil>)") cause
  | .several causes => Bytes.join [Bytes.newline] (texts causes)

/-- What a fault says, or what is said instead where there is none. -/
def textOr (missing : Bytes) : Option Fault → Bytes
  | none => missing
  | some fault => text fault

/-- What each of several faults says. -/
def texts : List Fault → List Bytes
  | [] => []
  | fault :: faults => text fault :: texts faults

end

/-! ### Walking the tree -/

/-- Several faults told as one: the missing ones are left out, and without any there is no fault. -/
def several? (causes : List (Option Fault)) : Option Fault :=
  match causes.filterMap id with
  | [] => none
  | faults => some (.several faults)

/-- The fault directly behind this one, if it was caused by a single one. -/
def cause? : Fault → Option Fault
  | .inputOutput _ _ cause => cause
  | .context _ cause => cause
  | _ => none

mutual

/-- The faults of a tree, every fault in front of those it holds. -/
def preorder : Fault → List Fault
  | .inputOutput op path cause => .inputOutput op path cause :: preorderOption cause
  | .context text cause => .context text cause :: preorderOption cause
  | .several causes => .several causes :: preorderList causes
  | fault => [fault]

/-- The faults of a tree that may be missing. -/
def preorderOption : Option Fault → List Fault
  | none => []
  | some fault => preorder fault

/-- The faults of several trees, one tree after another. -/
def preorderList : List Fault → List Fault
  | [] => []
  | fault :: faults => preorder fault ++ preorderList faults

end

/-! ### Exit codes -/

/-- The exit code that a kind of fault has by itself. -/
def code? : Fault → Option Nat
  | .invocation _ => some 1
  | .inputOutput _ _ _ => some 2
  | .unknownCommand _ _ => some 3
  | .unexpectedEnd _ _ _ => some 4
  | .invalidArgument _ _ _ _ => some 5
  | _ => none

/-- **The exit code of a fault**: that of the first fault of its tree that has one, and otherwise
that of a bad command line. -/
def exitCode (fault : Fault) : Nat :=
  (fault.preorder.findSome? code?).getD 1

/-- Whether the tree says that a source is used up. -/
def isEndOfInput (fault : Fault) : Bool :=
  fault.preorder.any fun
    | .endOfInput => true
    | _ => false

end Fault

/-- The exit code of a run that may have gone wrong. -/
def exitCode : Option Fault → Nat
  | none => 0
  | some fault => fault.exitCode

end OnePass
