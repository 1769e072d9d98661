import CaretQuery.Value

/-!
# Clause lists

A filter or sort may be given as one clause or as a list of clauses. The first item decides: if it
is a text, the whole is one clause. `single` and `many` say explicitly which is meant.
-/
namespace CaretQuery

/-- One clause given by its items. -/
def single (items : List Value) : Value := .clauses [.tuple items]

/-- Several clauses. -/
def many (clauses : List Value) : Value := .clauses clauses

/-- The clauses of a filter or sort. -/
def normalizeClauses : Value → List Value
  | .none => []
  | .clauses items => items
  | v =>
    match v.items? with
    | none => [v]
    | some [] => []
    | some (first :: rest) => if first.isText then [.tuple (first :: rest)] else first :: rest

/-- The items of one clause; a scalar or a text is a clause of one item. -/
def clauseItems (clause : Value) : List Value := clause.items?.getD [clause]

end CaretQuery
