import CaretQuery.Value.Text

/-!
# Faults of filters, sorts and basic queries

A fault says why a query cannot be built. An error is a fault together with the clause at fault and
its position in the clause list, as far as there are such.

An integer that is too long to be written ends a call wherever its text is asked for, in a query as
in the message of another fault. What is raised then is an error of the runtime and none of this
library's; the clause and the position of the error say where it came up, but it does not carry
them.
-/
namespace CaretQuery

inductive Fault where
  | unsupportedJoin (join : Value)
  | trailingJoin (join : Join)
  | unknownOperator (name field : Value)
  | missingValue (operator : Operator) (field : Value)
  | tooManyFilterItems (count : Nat)
  | tooManySortItems (count : Nat)
  | invalidSortDirection (direction field : Value)
  | invalidDirection (direction : Value)
  | missingSort
  | conflictingModes (options : List String)
  | longInteger

/-- The clause is `none` where no clause is to blame. -/
structure BuildError where
  fault : Fault
  clause : Value := .none
  index : Option Nat := none

def maxFilterItems : Nat := 3

def maxSortItems : Nat := 2

namespace Fault

/-- The kind of error that a report names. -/
def kind : Fault → String
  | .unsupportedJoin _ => "UnsupportedJoinError"
  | .trailingJoin _ => "TrailingJoinError"
  | .unknownOperator .. => "UnknownOperatorError"
  | .missingValue .. => "MissingValueError"
  | .tooManyFilterItems _ | .tooManySortItems _ => "TooManyItemsError"
  | .invalidSortDirection .. | .invalidDirection _ => "InvalidDirectionError"
  | .missingSort => "MissingSortError"
  | .conflictingModes _ => "ConflictingModeError"
  | .longInteger => "ValueError"

def tooMany (subject : String) (count limit : Nat) : String :=
  s!"{subject} clause has {count} items; at most {limit} are allowed"

def message : Fault → String
  | .unsupportedJoin join =>
    "Unsupported join operator " ++ join.quoted ++ "; expected one of: " ++
      ", ".intercalate (Join.all.map Join.word)
  | .trailingJoin join =>
    "Filter cannot end with a join operator (" ++ Text.quoted join.word ++ ")"
  | .unknownOperator name field =>
    "Unknown operator " ++ name.quoted ++ " in filter clause for field " ++ field.quoted
  | .missingValue op field =>
    "Operator " ++ Text.quoted op.name ++ " requires a value (field " ++ field.quoted ++ ")"
  | .tooManyFilterItems count => tooMany "Filter" count maxFilterItems
  | .tooManySortItems count => tooMany "Sort" count maxSortItems
  | .invalidSortDirection direction field =>
    "Invalid sort direction " ++ direction.quoted ++ " for field " ++ field.quoted ++
      "; expected 'asc' or 'desc'"
  | .invalidDirection direction =>
    "Invalid order direction " ++ direction.quoted ++ "; expected 'Asc' or 'Desc'."
  | .missingSort => "Advanced queries require sort input; pass [] for no ordering"
  | .conflictingModes options =>
    "filter/sort cannot be combined with basic-mode options: " ++ ", ".intercalate options
  | .longInteger => Number.digitLimitMessage ""

/-- The values that the message quotes. -/
def quotes : Fault → List Value
  | .unsupportedJoin join => [join]
  | .unknownOperator name field => [name, field]
  | .missingValue _ field => [field]
  | .invalidSortDirection direction field => [direction, field]
  | .invalidDirection direction => [direction]
  | _ => []

/-- What is raised for a fault. Its message is written first, as far as what it quotes has a
text. -/
def raised (fault : Fault) : Fault := if areWritable fault.quotes then fault else .longInteger

end Fault

def BuildError.message (e : BuildError) : String := e.fault.message

/-- A text made of the texts of values, if all of them have one. -/
def writtenFrom (values : List Value) (text : String) : Except Fault (Option String) :=
  if areWritable values then .ok (some text) else .error .longInteger

variable {fault : Fault} {values : List Value} {v : Value}

theorem Fault.raised_of_writable (h : ∀ v ∈ fault.quotes, v.isWritable = true) :
    fault.raised = fault := by
  have hall : areWritable fault.quotes = true := by simpa using h
  rw [raised, if_pos hall]

theorem Fault.raised_of_not_writable (hv : v ∈ fault.quotes) (h : v.isWritable = false) :
    fault.raised = .longInteger := by
  have hall : ¬areWritable fault.quotes = true := by simpa using ⟨v, hv, h⟩
  rw [raised, if_neg hall]

theorem writtenFrom_of_writable (h : ∀ v ∈ values, v.isWritable = true) (text : String) :
    writtenFrom values text = .ok (some text) := by
  have hall : areWritable values = true := by simpa using h
  rw [writtenFrom, if_pos hall]

theorem writtenFrom_of_not_writable (hv : v ∈ values) (h : v.isWritable = false) (text : String) :
    writtenFrom values text = .error .longInteger := by
  have hall : ¬areWritable values = true := by simpa using ⟨v, hv, h⟩
  rw [writtenFrom, if_neg hall]

end CaretQuery
