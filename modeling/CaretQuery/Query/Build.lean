import CaretQuery.Query.Basic
import CaretQuery.Query.Sort

/-!
# Building a query

A query is advanced when a filter or a sort is given, and basic otherwise; input for both modes is
refused before anything else is looked at. Empty order fields and absent settings take their
defaults.
-/
namespace CaretQuery

inductive Mode where
  | basic
  | advanced
  deriving DecidableEq, Repr

def Mode.name : Mode → String
  | .basic => "basic"
  | .advanced => "advanced"

/-- A built query, with the mode in which it was built. -/
structure Query where
  mode : Mode
  text : String
  deriving DecidableEq, Repr

structure QueryInput where
  filter : Value := .none
  sort : Value := .none
  orderBy : Value := .none
  direction : Value := .none
  exact : Value := .none
  contains : Value := .none
  operators : Option OperatorTable := none

namespace QueryInput

def isAdvanced (input : QueryInput) : Bool := !input.filter.isNone || !input.sort.isNone

/-- The basic-mode settings that are given, by name. -/
def basicOptions (input : QueryInput) : List String :=
  ([("order_by", input.orderBy), ("order_direction", input.direction),
    ("match_exact", input.exact), ("match_contains", input.contains)].filter
      fun option => !option.2.isNone).map Prod.fst

def table (input : QueryInput) : OperatorTable := input.operators.getD .builtin

/-- A falsy direction falls back on the default like an absent one. -/
def toBasic (input : QueryInput) : BasicInput where
  orderBy := if input.orderBy.isTruthy then input.orderBy else .str "opened_at"
  direction := if input.direction.isTruthy then input.direction else .direction .desc
  exact := input.exact
  contains := input.contains

end QueryInput

def buildQuery (input : QueryInput) : Except QueryError Query :=
  if input.isAdvanced then
    if input.basicOptions.isEmpty then
      match advancedQuery input.table input.filter input.sort with
      | .error e => .error (.build e)
      | .ok text => .ok ⟨.advanced, text⟩
    else .error (.build ⟨.conflictingModes input.basicOptions, .none, none⟩)
  else (basicQuery input.toBasic).map (⟨.basic, ·⟩)

/-- A query to be built in the mode that its input calls for, or in a given mode. -/
inductive QueryRequest where
  | any (input : QueryInput)
  | basic (input : BasicInput)
  | advanced (table : OperatorTable) (filter sort : Value)

def QueryRequest.build : QueryRequest → Except QueryError Query
  | .any input => buildQuery input
  | .basic input => (basicQuery input).map (⟨.basic, ·⟩)
  | .advanced table filter sort =>
    match advancedQuery table filter sort with
    | .error e => .error (.build e)
    | .ok text => .ok ⟨.advanced, text⟩

/-- The request parameters that carry a query. -/
def queryParams (query : String) : List (String × String) := [("sysparm_query", query)]

end CaretQuery
