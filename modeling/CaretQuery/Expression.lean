import CaretQuery.Query.Sort

/-!
# Building filter expressions

Expressions are built from tests on fields and joined with `and`, `or` and `group`. Values are
formatted when the test is built: truth values in lower case, moments without fraction and offset.
An absent value has no format, and a membership test needs at least one value.
-/
namespace CaretQuery

inductive FormatFault where
  | absent
  | noValues (method : String)
  | noExpressions (method : String)
  | notIterable
  | longInteger
  deriving DecidableEq, Repr

/-- The message of a fault, if it is one of this library's own. -/
def FormatFault.message? : FormatFault → Option String
  | .absent => some "None is not a valid query value; use is_empty()/is_not_empty()."
  | .noValues method => some s!"{method}() requires at least one value"
  | .noExpressions method => some s!"{method}() requires at least one expression"
  | .notIterable | .longInteger => none

/-- The kind of error that is raised. -/
def FormatFault.kind : FormatFault → String
  | .absent | .noValues _ | .noExpressions _ | .longInteger => "ValueError"
  | .notIterable => "TypeError"

/-- The form of a value in a query. -/
def formatValue : Value → Except FormatFault String
  | .none => .error .absent
  | .bool b => .ok (if b then "true" else "false")
  | .datetime t => .ok t.queryText
  | v => if v.isWritable then .ok v.text else .error .longInteger

def formatValues (method : String) (values : Value) : Except FormatFault String := do
  match values.elements? with
  | none => .error .notIterable
  | some elements =>
    match ← elements.mapM formatValue with
    | [] => .error (.noValues method)
    | texts => .ok (",".intercalate texts)

namespace Expr

/-- A comparison of a field with one value. -/
def comparing (field : Value) (c : Comparison) (value : Value) : Except FormatFault Expr :=
  (formatValue value).map (.compare field c)

/-- A test whether a field has one of the values. -/
def isOneOf (field values : Value) : Except FormatFault Expr :=
  (formatValues "in_list" values).map (.compare field .isIn)

def isNoneOf (field values : Value) : Except FormatFault Expr :=
  (formatValues "not_in" values).map (.compare field .notIn)

/-- A test whether a field lies between two values, both included. -/
def liesBetween (field low high : Value) : Except FormatFault Expr := do
  let low ← formatValue low
  let high ← formatValue high
  .ok (.compare field .between (low ++ "@" ++ high))

/-- Joins expressions from left to right; there must be at least one. -/
def joinAll (j : Join) (method : String) : List Expr → Except FormatFault Expr
  | [] => .error (.noExpressions method)
  | first :: rest => .ok (rest.foldl (fun left right => .join left j right) first)

def all (expressions : List Expr) : Except FormatFault Expr := joinAll .and "and_" expressions

def any (expressions : List Expr) : Except FormatFault Expr := joinAll .or "or_" expressions

/-- The filter section of an expression under an operator table. -/
def compile (table : OperatorTable) (e : Expr) : Except BuildError String :=
  (compileFilter table (.list e.clauses)).map String.join

/-- The filter section of an expression under the built-in operators. -/
def text (e : Expr) : String := (Value.expr e).text

def quoted (e : Expr) : String := (Value.expr e).quoted

end Expr

/-- Sort clauses. -/
def sortBy (direction : Direction) (field : Value) : Value :=
  .tuple [field, .str direction.word]

end CaretQuery
