import CaretQuery.CommandLine.Failure
import CaretQuery.Expression

/-!
# Input of the build command

Clauses are given as JSON: texts and arrays stand for themselves, numbers and truth values for the
text that a filter expression would give them, and absent values and objects are refused. Matches
are given as a field and a value with an equals sign between them.
-/
namespace CaretQuery.CommandLine

/-! ## Clauses -/

inductive ClauseFault where
  | null
  | object
  deriving DecidableEq, Repr

mutual

/-- The clauses that a JSON value stands for; they hold texts and arrays only. The first part that
stands for no clause is the error. An integer that has been read is short enough to be written. -/
def coerceClauses : Json → Except ClauseFault Json
  | .null => .error .null
  | .object _ => .error .object
  | .str s => .ok (.str s)
  | .array items => (coerceItems items).map .array
  | .bool b => .ok (.str (if b then "true" else "false"))
  | .int n => .ok (.str (toString n))
  | .float x => .ok (.str x.text)

def coerceItems : List Json → Except ClauseFault (List Json)
  | [] => .ok []
  | item :: items =>
    match coerceClauses item with
    | .error fault => .error fault
    | .ok item => (coerceItems items).map (item :: ·)

end

def ClauseFault.failure (option : String) : ClauseFault → Failure
  | .null =>
    .usage (option ++ " contains null, which is not a valid query value.")
      "Use the \"-isempty\" or \"-isnotempty\" operator to match empty fields."
  | .object =>
    .usage (option ++ " contains a JSON object; clauses must be arrays or strings.")

def clauseExample : String :=
  "Clauses are JSON arrays, e.g. " ++
    "[[\"state\", \"-eq\", \"1\"], \"or\", [\"priority\", \"-le\", \"2\"]]"

def readFailure (option : String) : Json.ReadError → Failure
  | .tooManyDigits count => .unexpected "ValueError" (Json.ReadError.tooManyDigits count).message
  | fault => .usage (option ++ " is not valid JSON: " ++ fault.message) clauseExample

/-- The clauses that an option gives. -/
def readClauses (option text : String) : Except Failure Json :=
  match Json.read text with
  | .error fault => .error (readFailure option fault)
  | .ok json => (coerceClauses json).mapError (ClauseFault.failure option)

/-- The content of the filter file, or of standard input where the file is a dash. -/
def filterContent (files : Files) (stdin : List UInt8) (file : String) :
    Except FileFault (List UInt8) :=
  if file = "-" then .ok stdin else files.read (.ofText file)

/-- The text of the filter file. -/
def readFilterFile (files : Files) (stdin : List UInt8) (file : String) : Except Failure String :=
  match filterContent files stdin file with
  | .error fault =>
    .error (.usage ("Cannot read filter file " ++ file ++ ": " ++ fault.error.reason))
  | .ok content =>
    match Text.Utf8.decode content with
    | .error fault => .error (.unexpected "UnicodeDecodeError" fault.message)
    | .ok cs => .ok (String.ofList (Files.universalLines cs))

/-! ## Matches -/

/-- The field and the value of a match. Blanks around the field do not count, and there must be a
field. -/
def splitMatch (raw : String) : Option (String × String) :=
  let before := raw.toList.takeWhile fun c => c != '='
  match raw.toList.drop before.length with
  | [] => none
  | _ :: value =>
    if (Text.trim before).isEmpty then none
    else some (String.ofList (Text.trim before), String.ofList value)

def readMatch (option raw : String) : Except Failure (String × String) :=
  match splitMatch raw with
  | some pair => .ok pair
  | none => .error (.usage (option ++ " expects FIELD=VALUE, got " ++ Text.quoted raw))

/-- The matches that an option gives each time that it is given, if it is given at all. -/
def readMatches (option : String) (raws : List String) :
    Except Failure (Option (List (String × String))) :=
  if raws.isEmpty then .ok none else (raws.mapM (readMatch option)).map some

/-- Matches as a value. -/
def matchesValue : Option (List (String × String)) → Value
  | none => .none
  | some pairs => .list (pairs.map fun (field, value) => .tuple [.str field, .str value])

end CaretQuery.CommandLine
