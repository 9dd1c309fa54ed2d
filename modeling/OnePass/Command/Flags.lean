import OnePass.Text.Quoted

/-
**The command line.**

Flags and other arguments may be mixed.  A flag is written with two dashes and its name or, if it
has one, with one dash and its letter; letters may be grouped behind one dash.  A value follows an
equals sign or, for a flag that needs one, is the next argument.  Two dashes alone end the flags.

Main definitions:

* `OnePass.Options` — what a command line asks for;
* `OnePass.Options.parse` — **reads a command line**, up to the first bad flag.
-/

set_option relaxedAutoImplicit false
set_option autoImplicit false

namespace OnePass

open Bytes (ofString ofAscii)

/-! ### Flags -/

/-- The flags of the command. -/
inductive Flag where
  /-- Explain the command. -/
  | help
  /-- Load the instruction table from a file. -/
  | isa
  /-- Print a listing. -/
  | listing
  /-- Log what happens. -/
  | verbose
  deriving DecidableEq, Repr

namespace Flag

/-- All flags. -/
def all : List Flag :=
  [.help, .isa, .listing, .verbose]

/-- The name of a flag. -/
def name : Flag → String
  | .help => "help"
  | .isa => "isa"
  | .listing => "listing"
  | .verbose => "verbose"

/-- The letter of a flag. -/
def letter? : Flag → Option Char
  | .help => some 'h'
  | .verbose => some 'v'
  | _ => none

/-- How a flag is shown. -/
def shown (flag : Flag) : Bytes :=
  match flag.letter? with
  | none => ofString "--" ++ ofString flag.name
  | some letter => [ofAscii '-', ofAscii letter] ++ ofString ", --" ++ ofString flag.name

/-- The flag with a name. -/
def ofName? (name : Bytes) : Option Flag :=
  all.find? (ofString ·.name == name)

/-- The flag with a letter. -/
def ofLetter? (b : UInt8) : Option Flag :=
  all.find? (·.letter?.map ofAscii == some b)

end Flag

/-- The words for truth values. -/
def truthValue? (s : Bytes) : Option Bool :=
  if (["1", "t", "T", "TRUE", "true", "True"].map ofString).contains s then some true
  else if (["0", "f", "F", "FALSE", "false", "False"].map ofString).contains s then some false
  else none

/-! ### Options -/

/-- What a command line asks for. -/
structure Options where
  /-- The file with the instruction table; without one the built-in table is used. -/
  isaPath : Bytes := []
  /-- Whether to print a listing. -/
  listing : Bool := false
  /-- Whether to log what happens. -/
  verbose : Bool := false
  /-- Whether to explain the command. -/
  help : Bool := false
  /-- The arguments that are no flags. -/
  arguments : List Bytes := []
  deriving DecidableEq, Repr

namespace Options

/-- A value that a flag does not take. -/
def badValue (flag : Flag) (value : Bytes) : Bytes :=
  ofString "invalid argument " ++ Text.quote value ++ ofString " for " ++ Text.quote flag.shown
    ++ ofString " flag: strconv.ParseBool: parsing " ++ Text.quote value
    ++ ofString ": invalid syntax"

/-- The options with a flag that is on or off. -/
def setSwitch (options : Options) (flag : Flag) (on : Bool) : Options :=
  match flag with
  | .help => { options with help := on }
  | .listing => { options with listing := on }
  | .verbose => { options with verbose := on }
  | .isa => options

/-- The options with a flag set to a value. -/
def set (options : Options) (flag : Flag) (value : Bytes) : Except Bytes Options :=
  match flag with
  | .isa => .ok { options with isaPath := value }
  | flag =>
    match truthValue? value with
    | some on => .ok (options.setSwitch flag on)
    | none => .error (badValue flag value)

/-- The options with one more argument. -/
def addArguments (options : Options) (arguments : List Bytes) : Options :=
  { options with arguments := options.arguments ++ arguments }

/-- The letters behind a single dash, each of which switches a flag on. An equals sign behind the
first letter and something behind that give a value. -/
def parseLetters (options : Options) : Bytes → Except Bytes Options
  | [] => .ok options
  | b :: rest =>
    if (ofString "test.").isPrefixOf (b :: rest) then .ok options
    else
      match Flag.ofLetter? b with
      | none =>
        .error (ofString "unknown shorthand flag: " ++ Text.quoteChar (Char.ofNat b.toNat)
          ++ ofString " in -" ++ b :: rest)
      | some flag =>
        match rest with
        | e :: v :: value =>
          if e = ofAscii '=' then options.set flag (v :: value)
          else (options.setSwitch flag true).parseLetters (e :: v :: value)
        | rest => (options.setSwitch flag true).parseLetters rest

/-- The name behind two dashes and the value behind an equals sign, if there is one. -/
def cutValue (s : Bytes) : Bytes × Option Bytes :=
  let name := s.takeWhile (· ≠ ofAscii '=')
  (name, if name.length < s.length then some (s.drop (name.length + 1)) else none)

/-- Whether a text cannot stand behind two dashes. -/
def isBadName (s : Bytes) : Bool :=
  s.head?.all fun b => b == ofAscii '-' || b == ofAscii '='

/-- An argument that begins with two dashes: the options and whether the next argument is its value.
-/
def parseName (options : Options) (s : Bytes) (next : Option Bytes) :
    Except Bytes (Options × Bool) :=
  if isBadName s then .error (ofString "bad flag syntax: --" ++ s)
  else
    match cutValue s with
    | (name, value) =>
      match Flag.ofName? name with
      | none => .error (ofString "unknown flag: --" ++ name)
      | some flag =>
        match value with
        | some value => (options.set flag value).map (·, false)
        | none =>
          if flag ≠ .isa then .ok (options.setSwitch flag true, false)
          else
            match next with
            | some value => (options.set flag value).map (·, true)
            | none => .error (ofString "flag needs an argument: --" ++ s)

/-- The rest of a command line, behind what has been read of it. -/
def parseFrom (options : Options) : List Bytes → Except Bytes Options
  | [] => .ok options
  | argument :: rest =>
    match argument with
    | d :: b :: s =>
      if d ≠ ofAscii '-' then (options.addArguments [argument]).parseFrom rest
      else if b ≠ ofAscii '-' then
        match options.parseLetters (b :: s) with
        | .error reason => .error reason
        | .ok options => options.parseFrom rest
      else if s = [] then .ok (options.addArguments rest)
      else
        match options.parseName s rest.head? with
        | .error reason => .error reason
        | .ok (options, false) => options.parseFrom rest
        | .ok (options, true) =>
          match rest with
          | [] => .ok options
          | _ :: rest => options.parseFrom rest
    | argument => (options.addArguments [argument]).parseFrom rest

/-- **Reads a command line**: what it asks for, or what is wrong with its first bad flag. -/
def parse (arguments : List Bytes) : Except Bytes Options :=
  parseFrom {} arguments

end Options

end OnePass
