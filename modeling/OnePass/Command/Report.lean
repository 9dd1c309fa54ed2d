import OnePass.Fault

/-
**Diagnostics.**

What the command says about a fault.  The kinds of fault are asked for in a fixed order over the
whole tree, so a bad command line anywhere in it is told first.

Main definitions:

* `OnePass.Fault.report` — **the diagnostic of a fault**, one or two lines.
-/

set_option relaxedAutoImplicit false
set_option autoImplicit false

namespace OnePass.Fault

open Bytes (ofString ofInt)

/-- A line of a diagnostic, put together from its parts. -/
def reportLine (parts : List Bytes) : Bytes :=
  parts.flatten ++ [Bytes.newline]

/-- What is said about a bad command line. -/
def reportInvocation? : Fault → Option Bytes
  | .invocation reason =>
    some (reportLine [ofString "Error: ", reason]
      ++ reportLine [ofString "Usage: asm8 [flags] <input_file.asm> <output_file.bin>"])
  | _ => none

/-- The failed operation, the file and what is known of the cause. -/
def inputOutput? : Fault → Option (Bytes × Bytes × Bytes)
  | .inputOutput op path cause => some (op, path, textOr (ofString "<nil>") cause)
  | _ => none

/-- What is said about a failed operation on a named file. -/
def reportInputOutput? (faults : List Fault) : Option Bytes :=
  match faults.findSome? inputOutput? with
  | none => none
  | some (op, path, cause) =>
    if path = [] then none
    else some (reportLine
      [ofString "Error: Cannot ", op, ofString " '", path, ofString "' (", cause, ofString ")"])

/-- What is said about an unknown command. -/
def reportUnknownCommand? : Fault → Option Bytes
  | .unknownCommand line token =>
    some (reportLine
      [ofString "Error [Line ", ofInt line, ofString "]: Unknown command '", token, ofString "'."])
  | _ => none

/-- What is said about a source that ends too early. -/
def reportUnexpectedEnd? : Fault → Option Bytes
  | .unexpectedEnd mnemonic _ _ =>
    some (reportLine
      [ofString "Error: End of file reached while expecting an argument for command '", mnemonic,
        ofString "'."])
  | _ => none

/-- What is said about an operand that does not fit. -/
def reportInvalidArgument? : Fault → Option Bytes
  | .invalidArgument line mnemonic token width =>
    some (reportLine
        [ofString "Error [Line ", ofInt line, ofString "]: Invalid argument '", token,
          ofString "' for command '", mnemonic, ofString "'."]
      ++ reportLine [ofString "Expected an ", ofInt width, ofString "-bit binary string."])
  | _ => none

/-- **The diagnostic of a fault.** Of several operations on files only the first is looked at. -/
def report (fault : Fault) : Bytes :=
  let faults := fault.preorder
  (faults.findSome? reportInvocation?
    <|> reportInputOutput? faults
    <|> faults.findSome? reportUnknownCommand?
    <|> faults.findSome? reportUnexpectedEnd?
    <|> faults.findSome? reportInvalidArgument?).getD
      (reportLine [ofString "Error: ", fault.text])

end OnePass.Fault
