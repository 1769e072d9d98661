import CaretQuery.Operator

/-!
# The built-in operators

Fifteen comparisons that take a value and three tests that take none, with the table that lists
all of them in order.
-/
namespace CaretQuery

/-- Comparisons of a field with a value. -/
inductive Comparison where
  | eq
  | ne
  | like
  | notLike
  | isIn
  | notIn
  | gt
  | ge
  | lt
  | le
  | startsWith
  | endsWith
  | between
  | sameAs
  | notSameAs
  deriving DecidableEq, Repr

/-- Tests of a field alone. -/
inductive FieldTest where
  | isEmpty
  | isNotEmpty
  | anything
  deriving DecidableEq, Repr

def Comparison.operator : Comparison → Operator
  | .eq => { name := "-eq", token := "=", description := "is equal to" }
  | .ne => { name := "-ne", token := "!=", description := "is not equal to" }
  | .like => { name := "-like", token := "LIKE", description := "contains" }
  | .notLike => { name := "-notlike", token := "NOT LIKE", description := "does not contain" }
  | .isIn => { name := "-in", token := "IN", description := "is one of" }
  | .notIn => { name := "-notin", token := "NOT IN", description := "is not one of" }
  | .gt => { name := "-gt", token := ">", description := "is greater than" }
  | .ge => { name := "-ge", token := ">=", description := "is greater than or equal to" }
  | .lt => { name := "-lt", token := "<", description := "is less than" }
  | .le => { name := "-le", token := "<=", description := "is less than or equal to" }
  | .startsWith => { name := "-startswith", token := "STARTSWITH", description := "starts with" }
  | .endsWith => { name := "-endswith", token := "ENDSWITH", description := "ends with" }
  | .between => { name := "-between", token := "BETWEEN", description := "is between" }
  | .sameAs =>
    { name := "-sameas", token := "SAMEAS", description := "is the same as another field" }
  | .notSameAs =>
    { name := "-notsameas", token := "NSAMEAS", description := "is different from another field" }

def FieldTest.operator : FieldTest → Operator
  | .isEmpty =>
    { name := "-isempty", token := "ISEMPTY", requiresValue := false, description := "is empty" }
  | .isNotEmpty =>
    { name := "-isnotempty", token := "ISNOTEMPTY", requiresValue := false,
      description := "is not empty" }
  | .anything =>
    { name := "-anything", token := "ANYTHING", requiresValue := false,
      description := "is anything" }

def builtinRows : List Operator :=
  [Comparison.eq, .ne, .like, .notLike, .isIn, .notIn, .gt, .ge, .lt, .le, .startsWith, .endsWith,
    .between].map Comparison.operator ++
  [FieldTest.isEmpty, .isNotEmpty, .anything].map FieldTest.operator ++
  [Comparison.sameAs, .notSameAs].map Comparison.operator

/-- The table that is used where no other is given. -/
def OperatorTable.builtin : OperatorTable := ⟨builtinRows, by decide +kernel⟩

/-- Every comparison is found in the built-in table under its own name. -/
theorem find?_comparison (c : Comparison) :
    OperatorTable.builtin.find? c.operator.name = some c.operator := by
  cases c <;> decide +kernel

theorem find?_fieldTest (t : FieldTest) :
    OperatorTable.builtin.find? t.operator.name = some t.operator := by
  cases t <;> decide +kernel

theorem requiresValue_comparison (c : Comparison) : c.operator.requiresValue = true := by
  cases c <;> rfl

theorem requiresValue_fieldTest (t : FieldTest) : t.operator.requiresValue = false := by
  cases t <;> rfl

end CaretQuery
