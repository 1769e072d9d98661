import CaretQuery.CommandLine.Report
import CaretQuery.CommandLine.Screen

/-!
# Showing reports

A report goes to standard output as JSON, or is shown to people: data on standard output, errors and
warnings on standard error. A query is written by itself, so that it can be piped. Details are
shown with growing verbosity, and nothing but the error itself when quiet is asked for.
-/
namespace CaretQuery.CommandLine

inductive Format where
  | table
  | json
  deriving DecidableEq, Repr

namespace Format

def all : List Format := [.table, .json]

def word : Format → String
  | .table => "table"
  | .json => "json"

def ofWord? (word : String) : Option Format := all.find? fun format => format.word == word

end Format

structure Display where
  format : Format := .table
  quiet : Bool := false
  verbosity : Int := 0
  deriving DecidableEq, Repr

/-- What goes to the two streams. -/
structure Shown where
  stdout : Output
  stderr : List Line
  deriving DecidableEq, Repr

/-- The version to be shown is not a text but data of another kind. -/
structure VersionFault where
  kind : String
  deriving DecidableEq, Repr

def VersionFault.message (fault : VersionFault) : String :=
  Text.quoted fault.kind ++ " object has no attribute 'translate'"

def kindName : Json → String
  | .null => "NoneType"
  | .bool _ => "bool"
  | .int _ => "int"
  | .float _ => "float"
  | .str _ => "str"
  | .array _ => "list"
  | .object _ => "dict"

def memberText (members : List (String × Json)) (key : String) : String :=
  match Json.member? members key with
  | none => ""
  | some value => value.toValue.text

def versionText (members : List (String × Json)) : Except VersionFault String :=
  match Json.member? members "version" with
  | none => .ok ""
  | some (.str s) => .ok s
  | some value => .error ⟨kindName value⟩

/-- The data of a report as people see it. -/
def Report.dataOutput (r : Report) : Except VersionFault Output :=
  match r.data with
  | .object members =>
    if r.command = "build" then .ok (.plain (memberText members "query" ++ "\n"))
    else if r.command = "version" then
      (versionText members).map fun version => .plain (Screen.shown version)
    else if r.command = "config path" then
      .ok (.plain (Screen.shown (memberText members "path")))
    else if r.command = "config init" then
      .ok (.screen (Screen.frame ("Initialized config at " ++ memberText members "path")))
    else .ok (Screen.memberTable members)
  | data => .ok (Screen.ofData data)

/-! ## Errors -/

def errorTitle (kind : String) : String :=
  match Text.trimString kind with
  | "usage_error" => "Usage error"
  | "validation_error" => "Invalid query"
  | "config_error" => "Configuration error"
  | "file_exists" => "File exists"
  | "internal_error" => "Internal error"
  | _ => "Error"

def hintLines (command : String) (e : ErrorInfo) : List Line :=
  match e.hint.filter fun hint => hint != "" with
  | some hint => Screen.ofText ("Hint: " ++ hint)
  | none =>
    if e.kind = "usage_error" then Screen.ofText s!"Hint: run `nowquery {command} --help`" else []

/-- The clause at fault with its position, if the position is known. -/
def clauseLines (details : List (String × Json)) : List Line :=
  match Json.member? details "index" with
  | none | some .null => []
  | some index =>
    let clause := (Json.member? details "clause").getD .null
    Screen.ofText ("Clause #" ++ index.toValue.text ++ ": " ++ clause.write)

def detailLines (display : Display) (e : ErrorInfo) : List Line :=
  match e.details with
  | none | some [] => []
  | some details =>
    let all := Screen.frame ((Json.object details).writeIndented 0)
    if e.kind = "validation_error" then
      clauseLines details ++ if 1 ≤ display.verbosity then all else []
    else if 2 ≤ display.verbosity then all
    else []

def errorLines (display : Display) (command : String) (e : ErrorInfo) : List Line :=
  Screen.ofText (errorTitle e.kind ++ ": " ++ e.message) ++
    if display.quiet then [] else hintLines command e ++ detailLines display e

/-- What is shown of a report that is not ok. -/
def Report.failureLines (display : Display) (r : Report) : List Line :=
  match r.error with
  | some e => errorLines display r.command e
  | none => [.text "Error"]

/-- Shows a report without its warnings. -/
def Report.shown (display : Display) (r : Report) : Except VersionFault Shown :=
  match display.format with
  | .json => .ok ⟨.plain r.line, []⟩
  | .table =>
    if r.ok then r.dataOutput.map (⟨·, []⟩) else .ok ⟨.plain "", r.failureLines display⟩

def warningLines (display : Display) (warnings : List String) : List Line :=
  if display.format = .json ∨ display.quiet then []
  else warnings.flatMap fun warning => Screen.ofText ("Warning: " ++ warning)

/-! ## The end of a command -/

/-- What a command that succeeds leaves. Its own warnings come instead of those collected before. -/
structure Outcome where
  data : Json := .null
  warnings : List String := []
  exitCode : Int := 0

/-- The end of a run: exit code, streams, and whether the command failed. -/
structure Finished where
  exitCode : Int
  stdout : Output
  stderr : List Line
  failed : Bool
  deriving DecidableEq, Repr

/-- What the reports of one command have in common, and whether the command reads JSON. -/
structure Heading where
  command : String
  configPath : String
  warnings : List String := []
  durationMs : Nat := 0
  readsJson : Bool := false

def Heading.success (h : Heading) (outcome : Outcome) : Report where
  command := h.command
  data := outcome.data
  warnings := if outcome.warnings.isEmpty then h.warnings else outcome.warnings
  durationMs := h.durationMs
  configPath := some h.configPath

def Heading.failure (h : Heading) (failure : Failure) : Report where
  command := h.command
  error := some failure.info
  warnings := h.warnings
  durationMs := h.durationMs
  configPath := some h.configPath

/-- Ends a command that has failed. -/
def fail (display : Display) (h : Heading) (failure : Failure) : Finished :=
  let report := h.failure failure
  let stdout := match display.format with
    | .json => report.line
    | .table => ""
  let errors := match display.format with
    | .json => []
    | .table => report.failureLines display
  ⟨failure.exitCode, .plain stdout, errors ++ warningLines display report.warnings, true⟩

/-- The end of a command with its outcome or its failure, if standard output takes it. -/
def conclude (display : Display) (h : Heading) : Except Failure Outcome → Finished
  | .error failure => fail display h failure
  | .ok outcome =>
    let report := h.success outcome
    match report.shown display with
    | .error fault => fail display h (.unexpected "AttributeError" fault.message)
    | .ok shown =>
      let errors := shown.stderr ++ warningLines display report.warnings
      ⟨outcome.exitCode, shown.stdout, errors, false⟩

/-- Why standard output does not take what is written, if it does not: only texts that are read from
JSON can hold lone surrogates. -/
def Heading.writeFault? (h : Heading) : Output → Option Text.Utf8.EncodeFault
  | .plain text => if h.readsJson then Text.Utf8.encodeFault? text else none
  | .screen _ => none

/-- The end of a command whose failure cannot be written. The trace of the program is left out. -/
def crashed : Finished := ⟨1, .plain "", [], true⟩

/-- Ends a command with its outcome or its failure. An outcome that cannot be written is a failure
of its own. -/
def finish (display : Display) (h : Heading) (result : Except Failure Outcome) : Finished :=
  let concluded := conclude display h result
  match h.writeFault? concluded.stdout with
  | none => concluded
  | some fault =>
    if concluded.failed then crashed
    else conclude display h (.error (.unexpected "UnicodeEncodeError" fault.message))

end CaretQuery.CommandLine
