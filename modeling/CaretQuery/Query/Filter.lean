import CaretQuery.Clause
import CaretQuery.Query.Error

/-!
# The filter section

Each clause of a filter becomes one fragment, and an empty clause none: a join becomes its token, a
field with an operator and perhaps a value becomes their texts put together. A separator ends the
section unless it is empty. The first clause that cannot be compiled is the error.
-/
namespace CaretQuery

def separator : String := "^"

/-- The operator that a value names. Only a text can name one. -/
def OperatorTable.named? (table : OperatorTable) (name : Value) : Option Operator :=
  name.asText?.bind table.find?

def Join.named? (word : Value) : Option Join := word.asText?.bind Join.ofWord?

/-- The fragment of a clause with the given items; a join may not be the last clause. -/
def filterFragment (table : OperatorTable) (last : Bool) :
    List Value → Except Fault (Option String)
  | [] => .ok none
  | [word] =>
    match Join.named? word with
    | none => .error (Fault.unsupportedJoin word).raised
    | some join => if last then .error (.trailingJoin join) else .ok (some join.token)
  | [field, name] =>
    match table.named? name with
    | none => .error (Fault.unknownOperator name field).raised
    | some op =>
      if op.requiresValue then .error (Fault.missingValue op field).raised
      else writtenFrom [field] (field.text ++ op.token)
  | [field, name, value] =>
    match table.named? name with
    | none => .error (Fault.unknownOperator name field).raised
    | some op => writtenFrom [field, value] (field.text ++ op.token ++ value.text)
  | items => .error (.tooManyFilterItems items.length)

/-- The fragments of the clauses from a position on. -/
def filterFragmentsFrom (table : OperatorTable) (index : Nat) :
    List Value → Except BuildError (List String)
  | [] => .ok []
  | clause :: clauses =>
    match filterFragment table clauses.isEmpty (clauseItems clause) with
    | .error fault => .error ⟨fault, clause, some index⟩
    | .ok fragment => (filterFragmentsFrom table (index + 1) clauses).map (fragment.toList ++ ·)

def terminated (fragments : List String) : List String :=
  if fragments.isEmpty then [] else fragments ++ [separator]

/-- The fragments of a filter under an operator table. -/
def compileFilter (table : OperatorTable) (filter : Value) : Except BuildError (List String) :=
  (filterFragmentsFrom table 0 (normalizeClauses filter)).map terminated

end CaretQuery
