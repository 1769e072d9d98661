import CaretQuery.CommandLine.Usage

/-!
# Options

Arguments are scanned from left to right for the options that are known. A long option may have its
value attached with an equals sign, short options may be written together, and two dashes end the
options. Where options may not stand behind other arguments, the first argument that is none ends
the scan.
-/
namespace CaretQuery.CommandLine

/-- An option with its spellings. Options with a short spelling take no value. -/
structure OptionSpec where
  name : String
  short : Option Char := none
  takesValue : Bool := false
  deriving DecidableEq, Repr

/-- The line of an option in a help text. -/
def OptionSpec.line (spec : OptionSpec) : String :=
  let short := match spec.short with
    | some c =>
      if spec.name = "-" ++ String.singleton c then "" else "-" ++ String.singleton c ++ ", "
    | none => ""
  "  " ++ short ++ spec.name ++ (if spec.takesValue then " VALUE" else "") ++ "\n"

/-- An option as it was given. -/
structure Given where
  name : String
  value : String := ""
  deriving DecidableEq, Repr

/-- The options that were given, in order, and the other arguments. -/
structure Scan where
  given : List Given := []
  rest : List String := []
  deriving DecidableEq, Repr

namespace Scan

def addOptions (options : List Given) (s : Scan) : Scan := { s with given := options ++ s.given }

def addArgument (argument : String) (s : Scan) : Scan := { s with rest := argument :: s.rest }

/-- What one argument gives: options, or an option whose value is the next argument. -/
inductive Reading where
  | complete (options : List Given)
  | awaiting (name : String)
  deriving DecidableEq, Repr

/-- The long spellings of options. -/
def longNames (specs : List OptionSpec) : List String := specs.filterMap fun spec =>
  if spec.name.startsWith "--" then some spec.name else none

/-- Reads short options that are written together. -/
def readShort (specs : List OptionSpec) : List Char → Except UsageError (List Given)
  | [] => .ok []
  | c :: rest =>
    match specs.find? fun spec => spec.short == some c with
    | none => .error (.noSuchOption ("-" ++ String.singleton c) [])
    | some spec => (readShort specs rest).map (⟨spec.name, ""⟩ :: ·)

/-- The part of an argument before its first equals sign, and the part after it. -/
def splitValue (argument : String) : String × Option String :=
  let before := argument.toList.takeWhile fun c => c != '='
  match argument.toList.drop before.length with
  | [] => (argument, none)
  | _ :: value => (String.ofList before, some (String.ofList value))

/-- Reads an argument that starts with a dash. -/
def readOption (specs : List OptionSpec) (argument : String) : Except UsageError Reading :=
  let (name, value) := splitValue argument
  match specs.find? fun spec => spec.name == name && name.startsWith "--", value with
  | some spec, some value =>
    if spec.takesValue then .ok (.complete [⟨spec.name, value⟩])
    else .error (.takesNoValue spec.name)
  | some spec, none =>
    .ok (if spec.takesValue then .awaiting spec.name else .complete [⟨spec.name, ""⟩])
  | none, _ =>
    if argument.startsWith "--" then .error (.noSuchOption name (longNames specs))
    else (readShort specs (argument.toList.drop 1)).map .complete

def looksLikeOption (argument : String) : Bool := argument.startsWith "-" && argument != "-"

/-- Scans arguments. -/
def scan (specs : List OptionSpec) (interspersed : Bool) : List String → Except UsageError Scan
  | [] => .ok {}
  | argument :: rest =>
    if argument = "--" then .ok { rest }
    else if !looksLikeOption argument then
      if interspersed then (scan specs interspersed rest).map (addArgument argument)
      else .ok { rest := argument :: rest }
    else
      match readOption specs argument, rest with
      | .error e, _ => .error e
      | .ok (.complete options), rest => (scan specs interspersed rest).map (addOptions options)
      | .ok (.awaiting name), [] => .error (.needsArgument name)
      | .ok (.awaiting name), value :: rest =>
        (scan specs interspersed rest).map (addOptions [⟨name, value⟩])

/-- The values of an option, in order. -/
def values (s : Scan) (name : String) : List String :=
  (s.given.filter fun option => option.name == name).map Given.value

/-- The value of an option; the last one counts. -/
def value? (s : Scan) (name : String) : Option String := (s.values name).getLast?

def has (s : Scan) (name : String) : Bool := s.given.any fun option => option.name == name

def count (s : Scan) (name : String) : Nat := (s.values name).length

/-- The names of the given options, each where it was given first. -/
def names (s : Scan) : List String := (s.given.map Given.name).eraseDups

/-- The first of some options to be given. -/
def first? (s : Scan) (names : List String) : Option String :=
  (s.given.map Given.name).find? fun name => names.contains name

end Scan
end CaretQuery.CommandLine
