import CaretQuery.Expression
import CaretQuery.Proofs.Filter.Outcome

/-! # The filter section of an expression

The built-in operators hold every test that an expression can make, and no
expression ends in a join. So its clauses compile under them, whatever its
fields are as long as they can be written, and the fragments are the tests and
join tokens from left to right.
-/
namespace CaretQuery

namespace Expr

/-- The fragments of an expression under the built-in operators. -/
def pieces : Expr → List String
  | .compare field c value => [field.text ++ c.operator.token ++ value]
  | .test field t => [field.text ++ t.operator.token]
  | .join left j right => left.pieces ++ j.token :: right.pieces

theorem join_pieces (e : Expr) : String.join e.pieces = e.fragments := by
  match e with
  | .compare field c value => simp [pieces, fragments, Value.text]
  | .test field t => simp [pieces, fragments, Value.text]
  | .join left j right =>
    rw [pieces, fragments, String.join_append, String.join_cons, join_pieces left,
      join_pieces right, String.append_assoc]

theorem pieces_ne_nil (e : Expr) : e.pieces ≠ [] := by
  cases e <;> simp [pieces]

/-- The first clause has items, so a list of these clauses is never taken for one clause. -/
theorem exists_clauses_eq_cons (e : Expr) :
    ∃ items rest, e.clauses = .tuple items :: rest := by
  match e with
  | .compare field c value => exact ⟨_, _, rfl⟩
  | .test field t => exact ⟨_, _, rfl⟩
  | .join left j right =>
    obtain ⟨items, rest, hleft⟩ := exists_clauses_eq_cons left
    exact ⟨items, rest ++ .tuple [.str j.word] :: right.clauses, by rw [clauses, hleft]; rfl⟩

theorem clauses_length_pos (e : Expr) : 0 < e.clauses.length := by
  obtain ⟨items, rest, h⟩ := e.exists_clauses_eq_cons
  simp [h]

@[simp] theorem normalizeClauses_clauses (e : Expr) :
    normalizeClauses (.list e.clauses) = e.clauses := by
  obtain ⟨items, rest, h⟩ := e.exists_clauses_eq_cons
  rw [h]
  rfl

/-- The clauses of an expression can be passed wherever there is room for them. -/
theorem passFrom_clauses (e : Expr) (he : e.isWritable = true) (size index : Nat)
    (h : index + e.clauses.length ≤ size) :
    passFrom (filterStep .builtin size) index e.clauses = .ok e.pieces := by
  match e with
  | .compare field c value =>
    have hop : OperatorTable.builtin.named? (.str c.operator.name) = some c.operator :=
      find?_comparison c
    have hfield : field.isWritable = true := by simpa [isWritable] using he
    simp [clauses, pieces, passFrom, filterStep, filterFragment, clauseItems, Value.items?, hop,
      writtenFrom, hfield, Except.map, Value.text_str]
  | .test field t =>
    have hop : OperatorTable.builtin.named? (.str t.operator.name) = some t.operator :=
      find?_fieldTest t
    have hfield : field.isWritable = true := by simpa [isWritable] using he
    simp [clauses, pieces, passFrom, filterStep, filterFragment, clauseItems, Value.items?, hop,
      requiresValue_fieldTest, writtenFrom, hfield, Except.map]
  | .join left j right =>
    rw [clauses, List.length_append, List.length_cons] at h
    rw [isWritable, Bool.and_eq_true] at he
    -- The right part has a clause, so the join before it is not the last.
    have hpos := right.clauses_length_pos
    have hleft := passFrom_clauses left he.1 size index (by omega)
    have hright := passFrom_clauses right he.2 size (index + left.clauses.length + 1) (by omega)
    have hjoin : filterStep .builtin size (index + left.clauses.length)
        (clauseItems (.tuple [.str j.word])) = .ok [j.token] := filterStep_join j (by omega)
    have htail := passFrom_cons_eq_ok.2 ⟨_, _, hjoin, hright, rfl⟩
    rw [clauses, passFrom_append, hleft, Except.bind, htail]
    rfl

theorem compileFilter_clauses {e : Expr} (he : e.isWritable = true) :
    compileFilter .builtin (.list e.clauses) = .ok (e.pieces ++ [separator]) := by
  rw [compileFilter_eq_pass, normalizeClauses_clauses, passFrom_clauses e he _ _ (by omega)]
  simp [Except.map, terminated, e.pieces_ne_nil]

theorem passFrom_singleton_of_not_writable {table : OperatorTable} {clause v : Value}
    (h : Shows table (clauseItems clause) v) (hv : v.isWritable = false) (size index : Nat) :
    passFrom (filterStep table size) index [clause] =
      .error ⟨.longInteger, clause, some index⟩ := by
  have hstep : filterStep table size index (clauseItems clause) = .error .longInteger :=
    filterStep_eq_error.2 (.longInteger h hv)
  rw [passFrom, hstep]

/-- The first field that cannot be written ends the pass. -/
theorem exists_passFrom_clauses_error (e : Expr) (he : e.isWritable = false) (size index : Nat)
    (h : index + e.clauses.length ≤ size) :
    ∃ error, passFrom (filterStep .builtin size) index e.clauses = .error error ∧
      error.fault = .longInteger := by
  match e with
  | .compare field c value =>
    have hfield : field.isWritable = false := by simpa [isWritable] using he
    have hshown : Shows .builtin [field, .str c.operator.name, .str value] field :=
      .field (Nat.le_refl 1)
    exact ⟨_, passFrom_singleton_of_not_writable hshown hfield _ _, rfl⟩
  | .test field t =>
    have hfield : field.isWritable = false := by simpa [isWritable] using he
    have hshown : Shows .builtin [field, .str t.operator.name] field := .field (Nat.zero_le 1)
    exact ⟨_, passFrom_singleton_of_not_writable hshown hfield _ _, rfl⟩
  | .join left j right =>
    rw [clauses, List.length_append, List.length_cons] at h
    rw [clauses, passFrom_append]
    cases hleft : left.isWritable with
    | false =>
      obtain ⟨error, herror, hfault⟩ :=
        exists_passFrom_clauses_error left hleft size index (by omega)
      exact ⟨error, by rw [herror]; rfl, hfault⟩
    | true =>
      have hright : right.isWritable = false := by simpa [isWritable, hleft] using he
      obtain ⟨error, herror, hfault⟩ := exists_passFrom_clauses_error right hright size
        (index + left.clauses.length + 1) (by omega)
      have hpos := right.clauses_length_pos
      have hjoin : filterStep .builtin size (index + left.clauses.length)
          (clauseItems (.tuple [.str j.word])) = .ok [j.token] := filterStep_join j (by omega)
      refine ⟨error, ?_, hfault⟩
      rw [passFrom_clauses left hleft size index (by omega), Except.bind, passFrom, hjoin, herror]
      rfl

/-- Without the text of its fields an expression has no section, and makes no query. -/
theorem exists_compile_error {e : Expr} (he : e.isWritable = false) :
    ∃ error, e.compile .builtin = .error error ∧ error.fault = .longInteger ∧
      advancedQuery .builtin (.list e.clauses) (.list []) = .error error := by
  obtain ⟨error, herror, hfault⟩ :=
    exists_passFrom_clauses_error e he e.clauses.length 0 (by omega)
  have hfilter : compileFilter .builtin (.list e.clauses) = .error error := by
    rw [compileFilter_eq_pass, normalizeClauses_clauses, herror]
    rfl
  refine ⟨error, by rw [compile, hfilter]; rfl, hfault, ?_⟩
  have hgiven : (Value.list []).isNone = false := rfl
  simp [advancedQuery, hgiven, hfilter]

theorem text_eq (e : Expr) : e.text = String.join (e.pieces ++ [separator]) := by
  simp [text, Value.text, Value.write, String.join_append, join_pieces, separator]

/-- The text of an expression is what its clauses compile to. -/
theorem compile_builtin {e : Expr} (he : e.isWritable = true) :
    e.compile .builtin = .ok e.text := by
  rw [compile, compileFilter_clauses he, text_eq]
  rfl

/-- With an empty sort the filter section is the whole query. -/
theorem advancedQuery_clauses {e : Expr} (he : e.isWritable = true) :
    advancedQuery .builtin (.list e.clauses) (.list []) = .ok e.text := by
  have hsort : compileSort (.list []) = .ok [] := rfl
  simp [advancedQuery, compileFilter_clauses he, hsort, text_eq, Value.isNone, Except.map]

/-! ## What the clauses tell -/

/-- The first item of a clause can be written. In the clauses of an expression this is the field of
a test or the word of a join. -/
def showsField (clause : Value) : Bool := (clauseItems clause).head?.all Value.isWritable

theorem isWritable_eq_all (e : Expr) : e.isWritable = e.clauses.all showsField := by
  match e with
  | .compare field c value => simp [isWritable, clauses, showsField, clauseItems, Value.items?]
  | .test field t => simp [isWritable, clauses, showsField, clauseItems, Value.items?]
  | .join left j right =>
    have hjoin : showsField (.tuple [.str j.word]) = true := by
      simp [showsField, clauseItems, Value.items?]
    rw [isWritable, clauses, isWritable_eq_all left, isWritable_eq_all right, List.all_append,
      List.all_cons, hjoin, Bool.true_and]

theorem text_eq_of_clauses {e f : Expr} (h : e.clauses = f.clauses) (he : e.isWritable = true) :
    e.text = f.text := by
  have hf : f.isWritable = true := by rw [isWritable_eq_all, ← h, ← isWritable_eq_all, he]
  have htext := compile_builtin he
  rw [compile, h, ← compile, compile_builtin hf] at htext
  exact (Except.ok.inj htext).symm

theorem quoted_eq (e : Expr) : e.quoted = "Filter(" ++ Text.quoted e.text ++ ")" := by
  simp [quoted, text, Value.quoted, Value.text, Value.write]

end Expr

end CaretQuery
