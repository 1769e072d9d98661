import CaretQuery.Proofs.Expression.Section
import CaretQuery.Proofs.Filter.Concatenation

/-! # Joined expressions

The section of two joined expressions is made of the sections of its parts,
whatever the operator table: the separator that ends the left section becomes
the start of the join token. If a part does not compile, its fault is that of
the whole, with the position counted from the start of the whole.
-/
namespace CaretQuery

variable {table : OperatorTable} {size index : Nat}

/-- What the token of a join has behind the separator. -/
def Join.suffix : Join → String
  | .and => ""
  | .or => "OR"
  | .group => "NQ"

theorem Join.token_eq (j : Join) : j.token = separator ++ j.suffix := by
  cases j <;> rfl

/-! ## Clauses of tests -/

/-- Only a single item is judged by where its clause stands. -/
theorem filterStep_of_length_ne_one {items : List Value} (h : items.length ≠ 1) (other : Nat) :
    filterStep table size index items = filterStep table other index items := by
  rcases items with _ | ⟨a, _ | ⟨b, _ | ⟨c, _ | ⟨d, items⟩⟩⟩⟩
  · rfl
  · exact absurd rfl h
  all_goals rfl

theorem passFrom_singleton_congr {clause : Value} (h : (clauseItems clause).length ≠ 1)
    (other : Nat) :
    passFrom (filterStep table size) index [clause] =
      passFrom (filterStep table other) index [clause] := by
  have hstep : filterStep table size index (clauseItems clause) =
      filterStep table other index (clauseItems clause) := filterStep_of_length_ne_one h other
  simp only [passFrom, hstep]

theorem writtenFrom_ne_none (values : List Value) (text : String) :
    writtenFrom values text ≠ .ok none := by
  rw [writtenFrom]
  split <;> simp

theorem filterFragment_ne_none {last : Bool} {items : List Value} (h : items ≠ []) :
    filterFragment table last items ≠ .ok none := by
  fun_cases filterFragment table last items <;> simp_all [writtenFrom_ne_none]

theorem passFrom_singleton_ne_nil {clause : Value} {texts : List String}
    (hitems : clauseItems clause ≠ [])
    (h : passFrom (filterStep table size) index [clause] = .ok texts) : texts ≠ [] := by
  obtain ⟨first, rest, hfirst, -, rfl⟩ := passFrom_cons_eq_ok.1 h
  cases hfragment : filterFragment table (index + 1 == size) (clauseItems clause) with
  | error fault => simp [filterStep, hfragment, Except.map] at hfirst
  | ok fragment =>
    cases fragment with
    | none => exact absurd hfragment (filterFragment_ne_none hitems)
    | some text =>
      obtain rfl : [text] = first := by simpa [filterStep, hfragment, Except.map] using hfirst
      simp

namespace Expr

/-! ## Texts of the clauses -/

/-- The texts of the clauses of an expression, without the separator that ends the section. -/
def texts (table : OperatorTable) (e : Expr) : Except BuildError (List String) :=
  passFrom (filterStep table e.clauses.length) 0 e.clauses

/-- No expression ends in a join, so it does not matter how many clauses follow it. -/
theorem passFrom_clauses_congr (e : Expr) (size other index : Nat)
    (hsize : index + e.clauses.length ≤ size) (hother : index + e.clauses.length ≤ other) :
    passFrom (filterStep table size) index e.clauses =
      passFrom (filterStep table other) index e.clauses := by
  match e with
  | .compare field c value =>
    exact passFrom_singleton_congr (by simp [clauseItems, Value.items?]) other
  | .test field t => exact passFrom_singleton_congr (by simp [clauseItems, Value.items?]) other
  | .join left j right =>
    rw [clauses, List.length_append, List.length_cons] at hsize hother
    have hpos := right.clauses_length_pos
    have hleft := passFrom_clauses_congr left size other index (by omega) (by omega)
    have hright := passFrom_clauses_congr right size other (index + left.clauses.length + 1)
      (by omega) (by omega)
    have hjoin (size : Nat) (h : index + left.clauses.length + 1 < size) :
        filterStep table size (index + left.clauses.length)
          (clauseItems (.tuple [.str j.word])) = .ok [j.token] := filterStep_join j h
    rw [clauses, passFrom_append, passFrom_append, hleft, passFrom, passFrom,
      hjoin size (by omega), hjoin other (by omega), hright]

theorem ne_nil_of_passFrom_clauses (e : Expr) {texts : List String}
    (h : passFrom (filterStep table size) index e.clauses = .ok texts) : texts ≠ [] := by
  match e with
  | .compare field c value =>
    exact passFrom_singleton_ne_nil (by simp [clauseItems, Value.items?]) h
  | .test field t => exact passFrom_singleton_ne_nil (by simp [clauseItems, Value.items?]) h
  | .join left j right =>
    obtain ⟨first, rest, hleft, -, rfl⟩ := passFrom_append_eq_ok.1 h
    simp [ne_nil_of_passFrom_clauses left hleft]

theorem compile_eq (e : Expr) :
    e.compile table = (e.texts table).map fun texts => String.join texts ++ separator := by
  rw [compile, compileFilter_eq_pass, normalizeClauses_clauses, ← texts]
  cases htexts : e.texts table with
  | error e => rfl
  | ok texts =>
    have hne := e.ne_nil_of_passFrom_clauses htexts
    simp [Except.map, terminated, hne, String.join_append]

/-- A join token stands behind the left part, and the positions of the right part are counted on
from there. -/
theorem texts_join (left : Expr) (j : Join) (right : Expr) :
    (join left j right).texts table =
      (left.texts table).bind fun first =>
        ((right.texts table).mapError (BuildError.shift (left.clauses.length + 1))).map
          fun rest => first ++ j.token :: rest := by
  have hright : right.clauses ≠ [] := List.length_pos_iff.1 right.clauses_length_pos
  have hclauses : (join left j right).clauses =
      (left.clauses ++ [.tuple [.str j.word]]) ++ right.clauses := by simp [clauses]
  have hjoin : filterStep table (left.clauses.length + 2) left.clauses.length
      (clauseItems (.tuple [.str j.word])) = .ok [j.token] := filterStep_join j (by omega)
  have hinner : innerFragments table (left.clauses ++ [.tuple [.str j.word]]) =
      (left.texts table).map (· ++ [j.token]) := by
    rw [innerFragments, passFrom_append, List.length_append, List.length_singleton,
      left.passFrom_clauses_congr _ left.clauses.length 0 (by omega) (by omega), ← texts,
      Nat.zero_add, passFrom, hjoin]
    rfl
  rw [texts, hclauses, passFrom_many_append hright, hinner, ← texts, List.length_append,
    List.length_singleton]
  cases left.texts table with
  | error e => rfl
  | ok first =>
    cases right.texts table <;> simp [Except.map, Except.bind, mapError_ok, mapError_error]

/-- Joined expressions compile to the section of the left part, the rest of the
join token, and the section of the right part. The fault of a part is that of
the whole, the left part first; the right part stands behind the left one and
the join. -/
theorem compile_join (left right : Expr) (j : Join) (table : OperatorTable) :
    (∀ first rest, left.compile table = .ok first → right.compile table = .ok rest →
      (join left j right).compile table = .ok (first ++ j.suffix ++ rest)) ∧
    (∀ e, left.compile table = .error e → (join left j right).compile table = .error e) ∧
    ∀ first e, left.compile table = .ok first → right.compile table = .error e →
      ∃ i, e.index = some i ∧ (join left j right).compile table =
        .error { e with index := some (left.clauses.length + 1 + i) } := by
  simp only [compile_eq, texts_join]
  cases hleft : left.texts table with
  | error e => simp [Except.map, Except.bind]
  | ok ls =>
    cases hright : right.texts table with
    | error e =>
      obtain ⟨i, clause, fault, -, rfl⟩ := passFrom_eq_error.1 hright
      simp [Except.map, Except.bind, mapError_error, BuildError.shift]
    | ok rs =>
      simp [Except.map, Except.bind, mapError_ok, Join.token_eq, String.join_append,
        String.append_assoc]

/-- The operator table of equality alone. -/
def equalityTable : OperatorTable := ⟨[Comparison.eq.operator], by decide⟩

/-- An operator that the table does not hold, in the second test of the right part. -/
theorem compile_join_unknown_operator :
    ∃ first e, (compare (.str "a") .eq "1").compile equalityTable = .ok first ∧
      (join (compare (.str "b") .eq "2") .or (test (.str "c") .isEmpty)).compile equalityTable =
        .error e ∧ e.index = some 2 ∧
      (join (compare (.str "a") .eq "1") .group
        (join (compare (.str "b") .eq "2") .or (test (.str "c") .isEmpty))).compile
          equalityTable =
        .error ⟨.unknownOperator (.str "-isempty") (.str "c"),
          .tuple [.str "c", .str "-isempty"], some 4⟩ := by
  refine ⟨"a=1^", ⟨.unknownOperator (.str "-isempty") (.str "c"),
    .tuple [.str "c", .str "-isempty"], some 2⟩, rfl, rfl, rfl, ?_⟩
  obtain ⟨-, -, hfault⟩ := compile_join (compare (.str "a") .eq "1")
    (join (compare (.str "b") .eq "2") .or (test (.str "c") .isEmpty)) .group equalityTable
  obtain ⟨i, hi, herror⟩ := hfault _ _ rfl rfl
  obtain rfl : 2 = i := by simpa using hi
  exact herror

end Expr

end CaretQuery
