import CaretQuery.Query.Filter

/-!
# The sort section

A sort clause is a field, ascending unless a direction follows it. Every key that does not stand at
the first position of the clause list has a separator before it.
-/
namespace CaretQuery

def Direction.named? (word : Value) : Option Direction := word.asText?.bind Direction.ofWord?

/-- The key of a sort clause with the given items. -/
def sortKey : List Value → Except Fault (Option String)
  | [] => .ok none
  | [field] => writtenFrom [field] (Direction.asc.token ++ field.text)
  | [field, word] =>
    match Direction.named? word with
    | none => .error (Fault.invalidSortDirection word field).raised
    | some direction => writtenFrom [field] (direction.token ++ field.text)
  | items => .error (.tooManySortItems items.length)

def placed (index : Nat) : Option String → List String
  | none => []
  | some key => if index = 0 then [key] else [separator, key]

/-- The fragments of the sort clauses from a position on. -/
def sortFragmentsFrom (index : Nat) : List Value → Except BuildError (List String)
  | [] => .ok []
  | clause :: clauses =>
    match sortKey (clauseItems clause) with
    | .error fault => .error ⟨fault, clause, some index⟩
    | .ok key => (sortFragmentsFrom (index + 1) clauses).map (placed index key ++ ·)

/-- The fragments of a sort. -/
def compileSort (sort : Value) : Except BuildError (List String) :=
  sortFragmentsFrom 0 (normalizeClauses sort)

/-- The query made of a filter and a sort. The sort must be given, if only as an empty list. -/
def advancedQuery (table : OperatorTable) (filter sort : Value) : Except BuildError String :=
  if sort.isNone then .error ⟨.missingSort, .none, none⟩
  else
    match compileFilter table filter with
    | .error e => .error e
    | .ok fragments => (compileSort sort).map fun keys => String.join (fragments ++ keys)

end CaretQuery
