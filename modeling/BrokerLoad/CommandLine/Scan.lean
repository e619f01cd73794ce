/-!
# Options on a command line

A command line is scanned for options by a table that says which options there are.
An option has a long name, written after two dashes, and perhaps a letter, written
after one; it may take a value.  The arguments that are neither options nor values
of options are *operands*, and they may stand anywhere among the options.

* A long option may be shortened as long as the rest leaves no doubt which option is
  meant; a full name is never in doubt.  Its value follows after an equals sign or as
  the next argument.
* Letters may be written in a cluster after one dash.  The value of a letter is the
  rest of its cluster, or the next argument if there is no rest.
* Two dashes alone end the options: all that follows are operands.

The next argument is a value whatever it looks like.

## Who is blamed

Where the scan cannot go on it names an argument.  For a long option, for a missing
value, and for an unknown letter at the end of its cluster that is the offending
argument itself.  An unknown letter further inside its cluster has not been passed
yet, and what is named is the last argument that has: the last of the operands
skipped so far, if there are any, as they are moved up behind the options; else the
option or the value before the cluster; else the name of the program.
-/

namespace BrokerLoad
namespace CommandLine

/-- An option. -/
structure OptionSpec (κ : Type) where
  /-- What it stands for. -/
  key : κ
  long : String
  letter : Option Char
  takesValue : Bool

/-- An option as it occurs on a command line. -/
structure Occurrence (κ : Type) where
  /-- What it stands for. -/
  key : κ
  /-- Its value; empty for an option that takes none. -/
  value : String := ""
  deriving DecidableEq

/-- How a scan ends. -/
inductive ScanEnd where
  /-- At the end of the command line, with these operands. -/
  | operands (arguments : List String)
  /-- At an option that is not known, or not in this form. -/
  | unknownOption (blamed : String)
  | missingValue (blamed : String)
  deriving DecidableEq

/-- The options that a scan has found, and how it ended. -/
structure Scan (κ : Type) where
  /-- The options, in order. -/
  found : List (Occurrence κ)
  /-- How it ended. -/
  ending : ScanEnd

/-- Puts options in front of what a scan has found. -/
def Scan.after {κ : Type} (found : List (Occurrence κ)) (scan : Scan κ) : Scan κ :=
  { scan with found := found ++ scan.found }

/-- What an argument is by its looks. -/
inductive Shape where
  /-- Two dashes alone. -/
  | terminator
  /-- A long option, and its value if it has one after an equals sign. -/
  | long (name : List Char) (value : Option (List Char))
  | cluster (letters : List Char)
  /-- Anything else. -/
  | operand
  deriving DecidableEq

/-- What an argument is by its looks. -/
def shape (argument : String) : Shape :=
  match argument.toList with
  | ['-', '-'] => .terminator
  | '-' :: '-' :: body =>
    match body.dropWhile (· ≠ '=') with
    | _ :: value => .long (body.takeWhile (· ≠ '=')) (some value)
    | [] => .long body none
  | '-' :: c :: rest => .cluster (c :: rest)
  | _ => .operand

section Tables

variable {κ : Type}

/-- The option meant by a name: the one of that full name, or else the only one whose
name begins so. -/
def lookupLong (specs : List (OptionSpec κ)) (name : List Char) : Option (OptionSpec κ) :=
  match specs.find? fun spec => spec.long.toList = name with
  | some spec => some spec
  | none =>
    match specs.filter fun spec => name.isPrefixOf spec.long.toList with
    | [spec] => some spec
    | _ => none

/-- The option of a letter. -/
def lookupLetter (specs : List (OptionSpec κ)) (letter : Char) : Option (OptionSpec κ) :=
  specs.find? fun spec => spec.letter = some letter

/-- How a cluster of letters ends. -/
inductive ClusterEnd (κ : Type) where
  /-- All letters are dealt with. -/
  | complete
  /-- The value of the last letter is the next argument. -/
  | wantsValue (key : κ)
  /-- At an unknown letter; whether there is more of the cluster after its first byte. -/
  | unknown (unfinished : Bool)

/-- Scans a cluster of letters. -/
def scanCluster (specs : List (OptionSpec κ)) :
    List Char → List (Occurrence κ) × ClusterEnd κ
  | [] => ([], .complete)
  | letter :: rest =>
    match lookupLetter specs letter with
    | none => ([], .unknown (rest ≠ [] || letter.utf8Size ≠ 1))
    | some spec =>
      if spec.takesValue then
        if rest = [] then ([], .wantsValue spec.key)
        else ([{ key := spec.key, value := String.ofList rest }], .complete)
      else
        let (found, ending) := scanCluster specs rest
        ({ key := spec.key } :: found, ending)

/-- Scans arguments.  `operands` are those skipped so far, `passed` is the option or value
passed last, and `wanting` the option whose value comes next, if one does. -/
def scanArguments (specs : List (OptionSpec κ)) (operands : List String) (passed : String)
    (wanting : Option κ) : List String → Scan κ
  | [] =>
    match wanting with
    | some _ => ⟨[], .missingValue passed⟩
    | none => ⟨[], .operands operands⟩
  | argument :: rest =>
    match wanting with
    | some key =>
      (scanArguments specs operands argument none rest).after [{ key, value := argument }]
    | none =>
      match shape argument with
      | .terminator => ⟨[], .operands (operands ++ rest)⟩
      | .operand => scanArguments specs (operands ++ [argument]) passed none rest
      | .long name value =>
        match lookupLong specs name with
        | none => ⟨[], .unknownOption argument⟩
        | some spec =>
          match spec.takesValue, value with
          | true, some value =>
            (scanArguments specs operands argument none rest).after
              [{ key := spec.key, value := String.ofList value }]
          | true, none => scanArguments specs operands argument (some spec.key) rest
          | false, none =>
            (scanArguments specs operands argument none rest).after [{ key := spec.key }]
          | false, some _ => ⟨[], .unknownOption argument⟩
      | .cluster letters =>
        let (found, ending) := scanCluster specs letters
        match ending with
        | .complete => (scanArguments specs operands argument none rest).after found
        | .wantsValue key => (scanArguments specs operands argument (some key) rest).after found
        | .unknown unfinished =>
          ⟨found, .unknownOption (if unfinished then operands.getLast?.getD passed else argument)⟩

/-- Scans a command line: the name of the program, and its arguments. -/
def scan (specs : List (OptionSpec κ)) : List String → Scan κ
  | [] => ⟨[], .operands []⟩
  | program :: arguments => scanArguments specs [] program none arguments

end Tables

end CommandLine
end BrokerLoad
