import CaretQuery.Document
import CaretQuery.Operator

/-!
# Operator records

A record is a table that describes one operator. Each field has a key and a second spelling, which
counts only where the first is missing; every other key is refused. All faults of a record are
reported, the fields in their order and then the unknown keys in theirs.
-/
namespace CaretQuery

inductive IssueKind where
  | missing
  | stringType
  | stringTooShort
  | boolParsing
  | boolType
  | extraForbidden
  | modelType
  deriving DecidableEq, Repr

def IssueKind.name : IssueKind → String
  | .missing => "missing"
  | .stringType => "string_type"
  | .stringTooShort => "string_too_short"
  | .boolParsing => "bool_parsing"
  | .boolType => "bool_type"
  | .extraForbidden => "extra_forbidden"
  | .modelType => "model_type"

/-- A fault of a record, with the key at which it is. -/
structure Issue where
  kind : IssueKind
  location : List String
  deriving DecidableEq, Repr

namespace Record

/-- A field of a record: its key and its second spelling. -/
structure Key where
  primary : String
  secondary : String

def nameKey : Key := ⟨"Name", "name"⟩

def tokenKey : Key := ⟨"QueryOperator", "query_operator"⟩

def requiresValueKey : Key := ⟨"RequiresValue", "requires_value"⟩

def descriptionKey : Key := ⟨"Description", "description"⟩

def keys : List Key := [nameKey, tokenKey, requiresValueKey, descriptionKey]

/-- The spelling of a key that an entry list uses, with its value. -/
def Key.find? (key : Key) (entries : List (String × Node)) : Option (String × Node) :=
  match Node.find? entries key.primary with
  | some node => some (key.primary, node)
  | none => (Node.find? entries key.secondary).map (key.secondary, ·)

def readNonEmpty : Node → Except IssueKind String
  | .text s => if s.isEmpty then .error .stringTooShort else .ok s
  | _ => .error .stringType

def readOptionalText : Node → Except IssueKind (Option String)
  | .null => .ok none
  | .text s => .ok (some s)
  | _ => .error .stringType

def falseWords : List String := ["0", "off", "f", "false", "n", "no"]

def trueWords : List String := ["1", "on", "t", "true", "y", "yes"]

def readInteger (n : Int) : Except IssueKind Bool :=
  if n = 0 then .ok false else if n = 1 then .ok true else .error .boolParsing

/-- An integer outside the range from `low` up to `high` is of the wrong type. -/
def readIntegerIn (low high n : Int) : Except IssueKind Bool :=
  if low ≤ n ∧ n < high then readInteger n else .error .boolType

/-- A truth value may also be given as a number 0 or 1, or as one of a few words. A number that is
not an integer of 64 bits is of the wrong type, and so is the least of these given as a double. -/
def readBool : Node → Except IssueKind Bool
  | .bool b => .ok b
  | .int n => readIntegerIn (-Int.pow 2 63) (Int.pow 2 63) n
  | .float x => x.toInt?.elim (.error .boolType) (readIntegerIn (-Int.pow 2 63 + 1) (Int.pow 2 63))
  | .text s =>
    if falseWords.contains s.toLower then .ok false
    else if trueWords.contains s.toLower then .ok true
    else .error .boolParsing
  | _ => .error .boolType

def readField (entries : List (String × Node)) (key : Key) (missing : Except IssueKind α)
    (read : Node → Except IssueKind α) : Except Issue α :=
  match key.find? entries with
  | none => missing.mapError (⟨·, [key.primary]⟩)
  | some (spelling, node) => (read node).mapError (⟨·, [spelling]⟩)

/-- The keys that belong to no field, or to one that is given under its first spelling. -/
def unusedKeys (entries : List (String × Node)) : List String :=
  (entries.map Prod.fst).filter fun key =>
    !(keys.any fun field => (field.find? entries).any fun found => found.1 == key)

def issueOf : Except Issue α → List Issue
  | .error issue => [issue]
  | .ok _ => []

def readEntries (entries : List (String × Node)) : Except (List Issue) Operator :=
  let name := readField entries nameKey (.error .missing) readNonEmpty
  let token := readField entries tokenKey (.error .missing) readNonEmpty
  let requiresValue := readField entries requiresValueKey (.ok true) readBool
  let description := readField entries descriptionKey (.ok none) readOptionalText
  let extras := (unusedKeys entries).map fun key => Issue.mk .extraForbidden [key]
  match name, token, requiresValue, description, extras with
  | .ok name, .ok token, .ok requiresValue, .ok description, [] =>
    .ok { name, token, requiresValue, description }
  | name, token, requiresValue, description, extras =>
    .error (issueOf name ++ issueOf token ++ issueOf requiresValue ++ issueOf description ++ extras)

/-- The operator that a record describes, or all that is wrong with it. -/
def read : Node → Except (List Issue) Operator
  | .table entries => readEntries entries
  | _ => .error [⟨.modelType, []⟩]

end Record

inductive TableError where
  | invalidEntry (index : Nat) (issues : List Issue)
  | duplicateName (name : String)

/-- Reads records from a position on; the first invalid one is the error. -/
def readRecordsFrom (index : Nat) : List Node → Except TableError (List Operator)
  | [] => .ok []
  | record :: records =>
    match Record.read record with
    | .error issues => .error (.invalidEntry index issues)
    | .ok op => (readRecordsFrom (index + 1) records).map (op :: ·)

namespace OperatorTable

/-- The table that a list of records describes. Every record must be valid before names are
compared. -/
def ofRecords (records : List Node) : Except TableError OperatorTable :=
  match readRecordsFrom 0 records with
  | .error e => .error e
  | .ok ops => (ofList ops).mapError .duplicateName

def mergedWith (base : OperatorTable) (ops : List Operator) : Except TableError OperatorTable :=
  (base.merged ops).mapError .duplicateName

end OperatorTable
end CaretQuery
