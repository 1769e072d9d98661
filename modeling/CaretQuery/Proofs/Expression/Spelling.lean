import CaretQuery.CommandLine.Input
import CaretQuery.Proofs.Expression.Section
import CaretQuery.Proofs.Sort.Outcome

/-! # Expressions spelled as JSON

The clauses of an expression can be given as JSON: a test as an array, a join
as a text or as an array of one text, and the value of a comparison as any
scalar that is formatted to it. Clauses that have been read from such JSON have
the items of the clauses of the expression, so both make the same query.
-/
namespace CaretQuery

namespace Json

/-- Texts, truth values and numbers. -/
def isScalar : Json → Bool
  | .bool _ | .int _ | .float _ | .str _ => true
  | .null | .array _ | .object _ => false

theorem toValues_eq_map (items : List Json) : toValues items = items.map toValue := by
  induction items with
  | nil => rfl
  | cons item items ih => rw [toValues, ih, List.map_cons]

end Json

/-- Numbers and texts are formatted to their text, if they have one. -/
theorem formatValue_eq_ok_iff {v : Value} {text : String}
    (h : formatValue v = if v.isWritable then .ok v.text else .error .longInteger) :
    formatValue v = .ok text ↔ v.isWritable = true ∧ text = v.text := by
  rw [h]
  cases v.isWritable <;> simp [eq_comm]

namespace CommandLine

/-- A scalar stands for the text that it is formatted to. -/
theorem coerceClauses_of_formatValue {v : Json} {text : String} (hscalar : v.isScalar = true)
    (h : formatValue v.toValue = .ok text) : coerceClauses v = .ok (.str text) := by
  cases v with
  | null => simp [Json.isScalar] at hscalar
  | array items => simp [Json.isScalar] at hscalar
  | object members => simp [Json.isScalar] at hscalar
  | bool b => simpa [coerceClauses, Json.toValue, formatValue] using h
  | int n =>
    rw [Json.toValue, formatValue_eq_ok_iff rfl] at h
    simp [coerceClauses, h.2, Value.text, Value.write]
  | float x =>
    rw [Json.toValue, formatValue_eq_ok_iff rfl] at h
    simp [coerceClauses, h.2, Value.text, Value.write]
  | str s => simpa [coerceClauses, Json.toValue, formatValue] using h

theorem coerceItems_cons_eq_ok {item : Json} {items read : List Json} :
    coerceItems (item :: items) = .ok read ↔
      ∃ first rest, coerceClauses item = .ok first ∧ coerceItems items = .ok rest ∧
        read = first :: rest := by
  rw [coerceItems]
  cases coerceClauses item with
  | error fault => simp
  | ok first => cases coerceItems items <;> simp [Except.map, eq_comm]

theorem coerceClauses_array_eq_ok {items : List Json} {read : Json} :
    coerceClauses (.array items) = .ok read ↔
      ∃ texts, coerceItems items = .ok texts ∧ read = .array texts := by
  rw [coerceClauses]
  cases coerceItems items <;> simp [Except.map, eq_comm]

theorem coerceItems_append {xs ys first rest : List Json} (hxs : coerceItems xs = .ok first)
    (hys : coerceItems ys = .ok rest) : coerceItems (xs ++ ys) = .ok (first ++ rest) := by
  induction xs generalizing first with
  | nil =>
    obtain rfl : [] = first := Except.ok.inj hxs
    exact hys
  | cons x xs ih =>
    obtain ⟨read, tail, hx, htail, rfl⟩ := coerceItems_cons_eq_ok.1 hxs
    exact coerceItems_cons_eq_ok.2 ⟨read, tail ++ rest, hx, ih htail, rfl⟩

end CommandLine

/-! ## Expressions -/

namespace Expr

theorem comparing_eq_ok {field value : Value} {c : Comparison} {e : Expr} :
    comparing field c value = .ok e ↔
      ∃ text, formatValue value = .ok text ∧ e = .compare field c text := by
  rw [comparing]
  cases formatValue value <;> simp [Except.map, eq_comm]

/-- The expression tests fields that are given by texts. -/
def HasTextFields : Expr → Prop
  | .compare field _ _ => ∃ name, field = .str name
  | .test field _ => ∃ name, field = .str name
  | .join left _ right => left.HasTextFields ∧ right.HasTextFields

end Expr

theorem Expr.isWritable_of_hasTextFields {e : Expr} (h : e.HasTextFields) :
    e.isWritable = true := by
  match e with
  | .compare field c value =>
    obtain ⟨name, rfl⟩ := h
    simp [isWritable]
  | .test field t =>
    obtain ⟨name, rfl⟩ := h
    simp [isWritable]
  | .join left j right =>
    simp [isWritable, isWritable_of_hasTextFields h.1, isWritable_of_hasTextFields h.2]

/-- The JSON spellings of the clauses of an expression whose fields are texts. The value of a
comparison is given raw, as a scalar that makes the comparison when the expression is built; the
formatted text is such a scalar. -/
inductive Spells : List Json → Expr → Prop
  | comparing {field : String} {c : Comparison} {value : Json} {e : Expr}
      (hscalar : value.isScalar = true)
      (h : Expr.comparing (.str field) c value.toValue = .ok e) :
      Spells [.array [.str field, .str c.operator.name, value]] e
  | test (field : String) (t : FieldTest) :
      Spells [.array [.str field, .str t.operator.name]] (.test (.str field) t)
  | join {xs ys : List Json} {left right : Expr} {word : Json} (j : Join)
      (hleft : Spells xs left) (hright : Spells ys right)
      (hword : word = .str j.word ∨ word = .array [.str j.word]) :
      Spells (xs ++ word :: ys) (.join left j right)

/-- The formatted text is one of the spellings of a value. -/
theorem Spells.formatted (field : String) (c : Comparison) (text : String) :
    Spells [.array [.str field, .str c.operator.name, .str text]]
      (.compare (.str field) c text) :=
  .comparing rfl rfl

/-- An expression can be spelled if and only if all its fields are texts. -/
theorem exists_spells_iff (e : Expr) : (∃ xs, Spells xs e) ↔ e.HasTextFields := by
  constructor
  · rintro ⟨xs, h⟩
    induction h with
    | @comparing field c value e hscalar h =>
      obtain ⟨text, -, rfl⟩ := Expr.comparing_eq_ok.1 h
      exact ⟨field, rfl⟩
    | test field t => exact ⟨field, rfl⟩
    | join j hleft hright hword ihleft ihright => exact ⟨ihleft, ihright⟩
  · intro h
    match e with
    | .compare field c text =>
      obtain ⟨name, rfl⟩ := h
      exact ⟨_, .formatted name c text⟩
    | .test field t =>
      obtain ⟨name, rfl⟩ := h
      exact ⟨_, .test name t⟩
    | .join left j right =>
      obtain ⟨xs, hxs⟩ := (exists_spells_iff left).2 h.1
      obtain ⟨ys, hys⟩ := (exists_spells_iff right).2 h.2
      exact ⟨_, hxs.join j hys (.inl rfl)⟩

theorem Spells.isWritable {xs : List Json} {e : Expr} (h : Spells xs e) : e.isWritable = true :=
  Expr.isWritable_of_hasTextFields ((exists_spells_iff e).1 ⟨xs, h⟩)

open CommandLine

/-- What is read from a spelling has the items of the clauses. -/
theorem Spells.exists_coerceItems {xs : List Json} {e : Expr} (h : Spells xs e) :
    ∃ read, coerceItems xs = .ok read ∧
      read.map (fun json => clauseItems json.toValue) = e.clauses.map clauseItems := by
  induction h with
  | @comparing field c value e hscalar h =>
    obtain ⟨text, hformat, rfl⟩ := Expr.comparing_eq_ok.1 h
    have hvalue := coerceClauses_of_formatValue hscalar hformat
    refine ⟨[.array [.str field, .str c.operator.name, .str text]], ?_, rfl⟩
    simp [coerceItems, coerceClauses, hvalue, Except.map]
  | test field t => exact ⟨[.array [.str field, .str t.operator.name]], rfl, rfl⟩
  | @join xs ys left right word j hleft hright hword ihleft ihright =>
    obtain ⟨first, hfirst, hleft⟩ := ihleft
    obtain ⟨rest, hrest, hright⟩ := ihright
    have hself : coerceClauses word = .ok word := by
      rcases hword with rfl | rfl <;> rfl
    have hitems : clauseItems word.toValue = [.str j.word] := by
      rcases hword with rfl | rfl <;> rfl
    have htail : coerceItems (word :: ys) = .ok (word :: rest) := by
      simp [coerceItems, hself, hrest, Except.map]
    refine ⟨first ++ word :: rest, coerceItems_append hfirst htail, ?_⟩
    rw [Expr.clauses, List.map_append, List.map_cons, List.map_append, List.map_cons, hleft,
      hright, hitems]
    rfl

/-- The first clause is a test, so it is spelled as an array. -/
theorem Spells.exists_eq_cons {xs : List Json} {e : Expr} (h : Spells xs e) :
    ∃ items rest, xs = .array items :: rest := by
  induction h with
  | comparing hscalar h => exact ⟨_, _, rfl⟩
  | test field t => exact ⟨_, _, rfl⟩
  | join j hleft hright hword ihleft ihright =>
    obtain ⟨items, rest, rfl⟩ := ihleft
    exact ⟨items, _, rfl⟩

/-- A spelling compiles to the section of its expression. -/
theorem Spells.compileFilter_eq {xs : List Json} {e : Expr} (h : Spells xs e) :
    ∃ read, coerceItems xs = .ok read ∧
      compileFilter .builtin (Json.array read).toValue = .ok (e.pieces ++ [separator]) := by
  obtain ⟨read, hread, hitems⟩ := h.exists_coerceItems
  obtain ⟨items, rest, rfl⟩ := h.exists_eq_cons
  have hclauses : normalizeClauses (Json.array read).toValue = read.map Json.toValue := by
    obtain ⟨first, others, hfirst, -, rfl⟩ := coerceItems_cons_eq_ok.1 hread
    obtain ⟨texts, -, rfl⟩ := coerceClauses_array_eq_ok.1 hfirst
    rw [Json.toValue, Json.toValues_eq_map]
    exact normalizeClauses_list (by rintro _ ⟨⟩; rfl)
  refine ⟨read, hread, compileFilter_eq_ok_of_items ?_ (Expr.compileFilter_clauses h.isWritable)⟩
  rw [hclauses, e.normalizeClauses_clauses, ← hitems, List.map_map]
  rfl

/-! ## Sorts -/

/-- A sort with a direction for every field. -/
def sortOf (keys : List (Direction × String)) : List Value :=
  keys.map fun key => sortBy key.1 (.str key.2)

/-- The keys of a sort as arrays of the field and the word for the direction. -/
def sortSpelling (keys : List (Direction × String)) : List Json :=
  keys.map fun key => .array [.str key.2, .str key.1.word]

theorem exists_passFrom_sortOf (keys : List (Direction × String)) (index : Nat) :
    ∃ texts, passFrom sortStep index (sortOf keys) = .ok texts := by
  rw [exists_passFrom_sortStep_iff]
  intro clause hclause
  obtain ⟨key, -, rfl⟩ := List.mem_map.1 hclause
  exact sortCompiles_iff.2 (.inr ⟨_, .directed key.1 rfl (Value.isWritable_str key.2)⟩)

theorem coerceItems_sortSpelling (keys : List (Direction × String)) :
    coerceItems (sortSpelling keys) = .ok (sortSpelling keys) := by
  induction keys with
  | nil => rfl
  | cons key keys ih => exact coerceItems_cons_eq_ok.2 ⟨_, _, rfl, ih, rfl⟩

theorem normalizeClauses_sortOf (keys : List (Direction × String)) :
    normalizeClauses (.list (sortOf keys)) = sortOf keys := by
  apply normalizeClauses_list
  cases keys with
  | nil => simp [sortOf]
  | cons key keys => rintro _ ⟨⟩; rfl

theorem compileSort_sortSpelling (keys : List (Direction × String)) :
    ∃ texts, compileSort (.list (sortOf keys)) = .ok texts ∧
      compileSort (Json.array (sortSpelling keys)).toValue = .ok texts := by
  obtain ⟨texts, htexts⟩ := exists_passFrom_sortOf keys 0
  have hsort : compileSort (.list (sortOf keys)) = .ok texts := by
    rw [compileSort_eq_pass, normalizeClauses_sortOf, htexts]
  have hclauses : normalizeClauses (Json.array (sortSpelling keys)).toValue =
      (sortSpelling keys).map Json.toValue := by
    rw [Json.toValue, Json.toValues_eq_map]
    apply normalizeClauses_list
    cases keys with
    | nil => simp [sortSpelling]
    | cons key keys => rintro _ ⟨⟩; rfl
  refine ⟨texts, hsort, compileSort_eq_ok_of_items ?_ hsort⟩
  rw [hclauses, normalizeClauses_sortOf, sortOf, sortSpelling, List.map_map, List.map_map,
    List.map_map]
  rfl

/-- Spellings of an expression and of a sort make the query of the clauses themselves. -/
theorem advancedQuery_of_spells {xs : List Json} {e : Expr} (h : Spells xs e)
    (keys : List (Direction × String)) :
    ∃ read query, coerceItems xs = .ok read ∧
      advancedQuery .builtin (.list e.clauses) (.list (sortOf keys)) = .ok query ∧
      advancedQuery .builtin (Json.array read).toValue (Json.array (sortSpelling keys)).toValue =
        .ok query := by
  obtain ⟨read, hread, hfilter⟩ := h.compileFilter_eq
  obtain ⟨texts, hsort, hspelled⟩ := compileSort_sortSpelling keys
  refine ⟨read, String.join (e.pieces ++ [separator] ++ texts), hread, ?_, ?_⟩
  · simp [advancedQuery, Value.isNone, Expr.compileFilter_clauses h.isWritable, hsort, Except.map]
  · have hgiven : (Json.array (sortSpelling keys)).toValue.isNone = false := rfl
    simp [advancedQuery, hgiven, hfilter, hspelled, Except.map]

end CaretQuery
