/-!
# Operators and operator tables

An operator has a name, as written in filter clauses, and a token, as written in the query. A table
holds operators in order, one for each name. Merging puts an operator in the place of the one with
its name, or at the end if there is none.
-/
namespace CaretQuery

structure Operator where
  name : String
  token : String
  requiresValue : Bool := true
  description : Option String := none
  deriving DecidableEq, Repr

/-- Operators in order, with pairwise different names. -/
structure OperatorTable where
  rows : List Operator
  nodup : (rows.map Operator.name).Nodup

namespace OperatorTable

def names (t : OperatorTable) : List String := t.rows.map Operator.name

def size (t : OperatorTable) : Nat := t.rows.length

def find? (t : OperatorTable) (name : String) : Option Operator :=
  t.rows.find? fun op => op.name == name

def empty : OperatorTable := ⟨[], .nil⟩

theorem ext {s t : OperatorTable} (h : s.rows = t.rows) : s = t := by
  cases s; cases t; simp_all

/-- The table with a new operator at the end. -/
def append (t : OperatorTable) (op : Operator) (h : op.name ∉ t.names) : OperatorTable where
  rows := t.rows ++ [op]
  nodup := by
    rw [List.map_append, List.nodup_append]
    refine ⟨t.nodup, List.nodup_cons.2 ⟨by simp, .nil⟩, ?_⟩
    intro a ha b hb
    simp only [List.map_cons, List.map_nil, List.mem_singleton] at hb
    rintro rfl
    exact h (hb ▸ ha)

/-- Adds operators at the end; fails with the first name that is already present. -/
def extend (t : OperatorTable) : List Operator → Except String OperatorTable
  | [] => .ok t
  | op :: ops =>
    if h : op.name ∈ t.names then .error op.name else (t.append op h).extend ops

/-- The table of a list of operators; fails with the first name that occurs a second time. -/
def ofList (ops : List Operator) : Except String OperatorTable := empty.extend ops

/-- Puts an operator where its name stands. -/
def replaceIn (op : Operator) (rows : List Operator) : List Operator :=
  rows.map fun row => if row.name = op.name then op else row

theorem names_replaceIn (op : Operator) (rows : List Operator) :
    (replaceIn op rows).map Operator.name = rows.map Operator.name := by
  induction rows with
  | nil => rfl
  | cons row rows ih =>
    by_cases h : row.name = op.name <;> simp_all [replaceIn]

/-- The table with an operator in the place of its name, or at the end. -/
def put (t : OperatorTable) (op : Operator) : OperatorTable :=
  if h : op.name ∈ t.names then
    ⟨replaceIn op t.rows, by rw [names_replaceIn]; exact t.nodup⟩
  else t.append op h

/-- The operators of the second table override those of the first. -/
def override (base incoming : OperatorTable) : OperatorTable := incoming.rows.foldl put base

/-- Merges a list of operators, which must not repeat a name among themselves. -/
def merged (base : OperatorTable) (ops : List Operator) : Except String OperatorTable :=
  (ofList ops).map base.override

/-- Whether two tables hold the same operators, in any order. -/
def sameRows (s t : OperatorTable) : Bool :=
  s.size == t.size && s.rows.all fun op => t.find? op.name == some op

end OperatorTable
end CaretQuery
