import CaretQuery.Proofs.ClausePass

/-! # Filters in a row

Clauses that others follow are compiled as they would be before one empty
clause: no join among them is the last. The clauses behind them are compiled
as they would be alone, with their positions counted on, and the separator
that ends the section is written once.
-/
namespace CaretQuery

variable {table : OperatorTable} {xs ys : List Value}

/-- The fragments of clauses that others follow. -/
def innerFragments (table : OperatorTable) (clauses : List Value) :
    Except BuildError (List String) :=
  passFrom (filterStep table (clauses.length + 1)) 0 clauses

theorem filterStep_add (table : OperatorTable) (offset size : Nat) :
    (fun i => filterStep table (offset + size) (offset + i)) = filterStep table size := by
  funext i
  apply filterStep_congr
  omega

theorem passFrom_eq_innerFragments {size : Nat} (h : xs.length < size) :
    passFrom (filterStep table size) 0 xs = innerFragments table xs := by
  apply passFrom_congr
  intro i hi items
  have hlast : 0 + i + 1 = size ↔ 0 + i + 1 = xs.length + 1 := by omega
  rw [filterStep_congr hlast]

theorem passFrom_many_append (hys : ys ≠ []) :
    passFrom (filterStep table (xs ++ ys).length) 0 (xs ++ ys) =
      (innerFragments table xs).bind fun texts =>
        ((passFrom (filterStep table ys.length) 0 ys).mapError (BuildError.shift xs.length)).map
          (texts ++ ·) := by
  have hlength : xs.length < (xs ++ ys).length := by
    have := List.length_pos_iff.2 hys
    rw [List.length_append]
    omega
  -- `passFrom_shift` asks for a sum, so the start of the second pass is written as one.
  rw [passFrom_append, passFrom_eq_innerFragments hlength, Nat.zero_add, List.length_append,
    ← Nat.add_zero xs.length, passFrom_shift, Nat.add_zero, filterStep_add]

theorem compileFilter_many (table : OperatorTable) (clauses : List Value) :
    compileFilter table (many clauses) =
      (passFrom (filterStep table clauses.length) 0 clauses).map terminated :=
  compileFilter_eq_pass table (many clauses)

/-- An empty clause at the end only keeps a join before it from being the last. -/
theorem compileFilter_many_concat_empty (table : OperatorTable) (xs : List Value) :
    compileFilter table (many (xs ++ [.tuple []])) =
      (innerFragments table xs).map terminated := by
  rw [compileFilter_many, passFrom_many_append (by simp)]
  cases innerFragments table xs with
  | error e => rfl
  | ok texts => simp [passFrom, filterStep, filterFragment, clauseItems, Value.items?,
      Except.bind, Except.map, mapError_ok]

theorem dropLast_terminated (fragments : List String) :
    (terminated fragments).dropLast = fragments := by
  cases fragments with
  | nil => rfl
  | cons first rest => exact List.dropLast_concat

/-- Compiling explicit clause lists turns concatenation of clauses into
concatenation of fragments; the first fault of either part is the fault of the
whole. -/
theorem compileFilter_many_append (table : OperatorTable) (xs ys : List Value) (hys : ys ≠ []) :
    (∀ e, compileFilter table (many (xs ++ [.tuple []])) = .error e →
      compileFilter table (many (xs ++ ys)) = .error e) ∧
    (∀ fs e, compileFilter table (many (xs ++ [.tuple []])) = .ok fs →
      compileFilter table (many ys) = .error e →
      ∃ j, e.index = some j ∧ compileFilter table (many (xs ++ ys)) =
        .error { e with index := some (xs.length + j) }) ∧
    ∀ fs gs, compileFilter table (many (xs ++ [.tuple []])) = .ok fs →
      compileFilter table (many ys) = .ok gs →
      fs = terminated fs.dropLast ∧ gs = terminated gs.dropLast ∧
        compileFilter table (many (xs ++ ys)) = .ok (terminated (fs.dropLast ++ gs.dropLast)) := by
  rw [compileFilter_many_concat_empty, compileFilter_many, compileFilter_many,
    passFrom_many_append hys]
  cases hinner : innerFragments table xs with
  | error e => simp [Except.map, Except.bind]
  | ok inner =>
    cases hpass : passFrom (filterStep table ys.length) 0 ys with
    | error e =>
      obtain ⟨i, clause, fault, -, rfl⟩ := passFrom_eq_error.1 hpass
      simp [Except.map, Except.bind, mapError_error, BuildError.shift]
    | ok outer =>
      simp [Except.map, Except.bind, mapError_ok, dropLast_terminated]

/-- A join before the cut, and a missing value behind it. -/
theorem compileFilter_many_append_missing_value :
    [Value.tuple [.str "active", .str "-eq"]] ≠ [] ∧
      compileFilter .builtin (many ([.tuple [.str "state", .str "-eq", .str "1"], .str "or"] ++
          [.tuple [.str "active", .str "-eq"]])) =
        .error ⟨.missingValue Comparison.eq.operator (.str "active"),
          .tuple [.str "active", .str "-eq"], some 2⟩ := by
  have hys : [Value.tuple [.str "active", .str "-eq"]] ≠ [] := by simp
  refine ⟨hys, ?_⟩
  obtain ⟨-, hfault, -⟩ := compileFilter_many_append .builtin
    [.tuple [.str "state", .str "-eq", .str "1"], .str "or"]
    [.tuple [.str "active", .str "-eq"]] hys
  obtain ⟨j, hj, herror⟩ := hfault ["state" ++ "=" ++ "1", "^OR", "^"]
    ⟨.missingValue Comparison.eq.operator (.str "active"),
      .tuple [.str "active", .str "-eq"], some 0⟩ rfl rfl
  obtain rfl : 0 = j := by simpa using hj
  exact herror

end CaretQuery
