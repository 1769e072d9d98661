import CaretQuery.Query.Sort

/-! # One pass over a clause list

Filters and sorts are compiled in the same way: every clause gives its texts in
turn, and the first one that cannot ends the pass with its position. What a
pass does is fixed by the texts that it makes of the items at each position.
-/
namespace CaretQuery

/-- The texts of the items of a clause at a position. -/
abbrev PassStep := Nat → List Value → Except Fault (List String)

def passFrom (step : PassStep) (index : Nat) : List Value → Except BuildError (List String)
  | [] => .ok []
  | clause :: clauses =>
    match step index (clauseItems clause) with
    | .error fault => .error ⟨fault, clause, some index⟩
    | .ok texts => (passFrom step (index + 1) clauses).map (texts ++ ·)

/-- The error of a clause list that stands behind a number of other clauses. -/
def BuildError.shift (offset : Nat) (e : BuildError) : BuildError :=
  { e with index := e.index.map (offset + ·) }

/-- What an error says, whichever clause it quotes: its kind, its message and the position. -/
def BuildError.notice (e : BuildError) : String × String × Option Nat :=
  (e.fault.kind, e.message, e.index)

variable {step : PassStep} {index : Nat} {clauses : List Value}

theorem passFrom_cons_eq_ok {clause : Value} {texts : List String} :
    passFrom step index (clause :: clauses) = .ok texts ↔
      ∃ first rest, step index (clauseItems clause) = .ok first ∧
        passFrom step (index + 1) clauses = .ok rest ∧ texts = first ++ rest := by
  rw [passFrom]
  cases hstep : step index (clauseItems clause) with
  | error fault => simp
  | ok first =>
    cases hrest : passFrom step (index + 1) clauses with
    | error e => simp [Except.map]
    | ok rest => simp [Except.map, eq_comm]

/-- The clause at position `i` of the list is the first without texts. -/
def FailsAt (step : PassStep) (index : Nat) (clauses : List Value) (i : Nat) (clause : Value)
    (fault : Fault) : Prop :=
  clauses[i]? = some clause ∧ step (index + i) (clauseItems clause) = .error fault ∧
    ∀ j < i, ∀ earlier, clauses[j]? = some earlier →
      ∃ texts, step (index + j) (clauseItems earlier) = .ok texts

theorem failsAt_zero {first clause : Value} {fault : Fault} :
    FailsAt step index (first :: clauses) 0 clause fault ↔
      first = clause ∧ step index (clauseItems first) = .error fault := by
  simp only [FailsAt, List.getElem?_cons_zero, Option.some.injEq, Nat.add_zero, Nat.not_lt_zero,
    false_implies, implies_true, and_true]
  constructor <;> rintro ⟨rfl, h⟩ <;> exact ⟨rfl, h⟩

theorem failsAt_succ {i : Nat} {first clause : Value} {fault : Fault} :
    FailsAt step index (first :: clauses) (i + 1) clause fault ↔
      (∃ texts, step index (clauseItems first) = .ok texts) ∧
        FailsAt step (index + 1) clauses i clause fault := by
  simp only [FailsAt, List.getElem?_cons_succ, Nat.forall_lt_succ_left, List.getElem?_cons_zero,
    Option.some.injEq, forall_eq', Nat.add_zero, Nat.add_assoc, Nat.add_comm 1]
  constructor
  · rintro ⟨hclause, hfault, hfirst, hbefore⟩
    exact ⟨hfirst, hclause, hfault, hbefore⟩
  · rintro ⟨hfirst, hclause, hfault, hbefore⟩
    exact ⟨hclause, hfault, hfirst, hbefore⟩

/-- A pass fails at the first clause without texts, and at no other. -/
theorem passFrom_eq_error {e : BuildError} :
    passFrom step index clauses = .error e ↔
      ∃ i clause fault, FailsAt step index clauses i clause fault ∧
        e = ⟨fault, clause, some (index + i)⟩ := by
  induction clauses generalizing index with
  | nil => simp [passFrom, FailsAt]
  | cons first clauses ih =>
    rw [passFrom]
    cases hstep : step index (clauseItems first) with
    | error fault =>
      constructor
      · intro h
        exact ⟨0, first, fault, failsAt_zero.2 ⟨rfl, hstep⟩, (Except.error.inj h).symm⟩
      · rintro ⟨i, clause, other, hfails, rfl⟩
        cases i with
        | zero =>
          obtain ⟨rfl, hother⟩ := failsAt_zero.1 hfails
          obtain rfl := Except.error.inj (hstep.symm.trans hother)
          rfl
        | succ i =>
          obtain ⟨⟨texts, htexts⟩, -⟩ := failsAt_succ.1 hfails
          simp [hstep] at htexts
    | ok texts =>
      have hmap : (passFrom step (index + 1) clauses).map (texts ++ ·) = .error e ↔
          passFrom step (index + 1) clauses = .error e := by
        cases passFrom step (index + 1) clauses <;> simp [Except.map]
      rw [hmap, ih]
      constructor
      · rintro ⟨i, clause, fault, hfails, rfl⟩
        exact ⟨i + 1, clause, fault, failsAt_succ.2 ⟨⟨texts, hstep⟩, hfails⟩,
          by rw [Nat.add_assoc, Nat.add_comm 1]⟩
      · rintro ⟨i, clause, fault, hfails, rfl⟩
        cases i with
        | zero => simp [failsAt_zero, hstep] at hfails
        | succ i =>
          exact ⟨i, clause, fault, (failsAt_succ.1 hfails).2,
            by rw [Nat.add_assoc, Nat.add_comm 1]⟩

/-- Two lists in a row are passed one after the other. -/
theorem passFrom_append (step : PassStep) (index : Nat) (xs ys : List Value) :
    passFrom step index (xs ++ ys) =
      (passFrom step index xs).bind fun texts =>
        (passFrom step (index + xs.length) ys).map (texts ++ ·) := by
  induction xs generalizing index with
  | nil =>
    cases h : passFrom step index ys <;> simp [passFrom, Except.bind, Except.map, h]
  | cons x xs ih =>
    rw [List.cons_append, passFrom, passFrom]
    cases step index (clauseItems x) with
    | error fault => rfl
    | ok first =>
      simp only
      rw [ih, List.length_cons, show index + (xs.length + 1) = index + 1 + xs.length by omega]
      cases passFrom step (index + 1) xs with
      | error e => rfl
      | ok texts =>
        cases passFrom step (index + 1 + xs.length) ys <;>
          simp [Except.bind, Except.map, List.append_assoc]

theorem passFrom_append_eq_ok {xs ys : List Value} {texts : List String} :
    passFrom step index (xs ++ ys) = .ok texts ↔
      ∃ first rest, passFrom step index xs = .ok first ∧
        passFrom step (index + xs.length) ys = .ok rest ∧ texts = first ++ rest := by
  rw [passFrom_append]
  cases passFrom step index xs with
  | error e => simp [Except.bind]
  | ok first =>
    cases passFrom step (index + xs.length) ys with
    | error e => simp [Except.bind, Except.map]
    | ok rest => simp [Except.bind, Except.map, eq_comm]

/-! ## Passes side by side -/

theorem mapError_ok {ε ε' α : Type} (f : ε → ε') (a : α) :
    (Except.ok a : Except ε α).mapError f = .ok a := rfl

theorem mapError_error {ε ε' α : Type} (f : ε → ε') (e : ε) :
    (Except.error e : Except ε α).mapError f = .error (f e) := rfl

theorem mapError_id {ε α : Type} (x : Except ε α) : x.mapError id = x := by
  cases x <;> rfl

theorem mapError_eq_ok {ε ε' α : Type} {x : Except ε α} {f : ε → ε'} {a : α} :
    x.mapError f = .ok a ↔ x = .ok a := by
  cases x <;> simp [mapError_ok, mapError_error]

theorem mapError_map {ε ε' α β : Type} (f : ε → ε') (g : α → β) (x : Except ε α) :
    (x.map g).mapError f = (x.mapError f).map g := by
  cases x <;> rfl

/-- Where the steps of two passes give the same texts, or faults that two views
of errors do not tell apart, the passes end alike under these views. -/
theorem passFrom_alike {γ : Type} (view view' : BuildError → γ) {step step' : PassStep}
    {index index' : Nat} {xs ys : List Value} (hlength : xs.length = ys.length)
    (h : ∀ i x y, xs[i]? = some x → ys[i]? = some y →
      (step (index + i) (clauseItems x)).mapError (fun fault => view ⟨fault, x, some (index + i)⟩) =
        (step' (index' + i) (clauseItems y)).mapError
          fun fault => view' ⟨fault, y, some (index' + i)⟩) :
    (passFrom step index xs).mapError view = (passFrom step' index' ys).mapError view' := by
  -- Both lists are taken apart together, each at its own position.
  induction xs generalizing index index' ys with
  | nil =>
    obtain rfl : ys = [] := List.length_eq_zero_iff.1 hlength.symm
    rfl
  | cons x xs ih =>
    cases ys with
    | nil => simp at hlength
    | cons y ys =>
      have hfirst := h 0 x y rfl rfl
      have hrest : (passFrom step (index + 1) xs).mapError view =
          (passFrom step' (index' + 1) ys).mapError view' := by
        refine ih (by simpa using hlength) fun i a b ha hb => ?_
        have hi := h (i + 1) a b ha hb
        rwa [show index + (i + 1) = index + 1 + i by omega,
          show index' + (i + 1) = index' + 1 + i by omega] at hi
      rw [Nat.add_zero, Nat.add_zero] at hfirst
      rw [passFrom, passFrom]
      cases hx : step index (clauseItems x) with
      | error fault =>
        cases hy : step' index' (clauseItems y) with
        | error other => simpa [hx, hy, mapError_error] using hfirst
        | ok texts => simp [hx, hy, mapError_ok, mapError_error] at hfirst
      | ok texts =>
        cases hy : step' index' (clauseItems y) with
        | error fault => simp [hx, hy, mapError_ok, mapError_error] at hfirst
        | ok others =>
          obtain rfl : texts = others := by simpa [hx, hy, mapError_ok] using hfirst
          simp only
          rw [mapError_map, mapError_map, hrest]

/-- Two passes over one list. -/
theorem passFrom_alike_self {γ : Type} (view view' : BuildError → γ) {step step' : PassStep}
    {index index' : Nat} {clauses : List Value}
    (h : ∀ i clause, clauses[i]? = some clause →
      (step (index + i) (clauseItems clause)).mapError
          (fun fault => view ⟨fault, clause, some (index + i)⟩) =
        (step' (index' + i) (clauseItems clause)).mapError
          fun fault => view' ⟨fault, clause, some (index' + i)⟩) :
    (passFrom step index clauses).mapError view =
      (passFrom step' index' clauses).mapError view' := by
  apply passFrom_alike view view' rfl
  intro i x y hx hy
  obtain rfl : x = y := Option.some.inj (hx.symm.trans hy)
  exact h i x hx

/-- Only the positions of the list itself are looked at. -/
theorem passFrom_congr {step other : PassStep}
    (h : ∀ i < clauses.length, ∀ items, step (index + i) items = other (index + i) items) :
    passFrom step index clauses = passFrom other index clauses := by
  rw [← mapError_id (passFrom step index clauses), ← mapError_id (passFrom other index clauses)]
  apply passFrom_alike_self
  intro i clause hclause
  rw [h i (List.getElem?_eq_some_iff.1 hclause).1]

/-- A pass that starts later differs in the positions of its errors only. -/
theorem passFrom_shift (step : PassStep) (offset index : Nat) (clauses : List Value) :
    passFrom step (offset + index) clauses =
      (passFrom (fun i => step (offset + i)) index clauses).mapError (BuildError.shift offset) := by
  rw [← mapError_id (passFrom step (offset + index) clauses)]
  apply passFrom_alike_self
  intro i clause _
  rw [Nat.add_assoc]
  rfl

/-- A pass only looks at the items of the clauses; their form shows in the clause of an error. -/
theorem passFrom_notice_of_items (step : PassStep) (index : Nat) {xs ys : List Value}
    (h : xs.map clauseItems = ys.map clauseItems) :
    (passFrom step index xs).mapError BuildError.notice =
      (passFrom step index ys).mapError BuildError.notice := by
  apply passFrom_alike
  · simpa using congrArg List.length h
  · intro i x y hx hy
    have hitems : clauseItems x = clauseItems y := by
      simpa [hx, hy] using congrArg (fun items => items[i]?) h
    rw [hitems]
    rfl

/-! ## The two passes -/

/-- Filters: a join is refused at the last of a number of positions. -/
def filterStep (table : OperatorTable) (size : Nat) : PassStep := fun index items =>
  (filterFragment table (index + 1 == size) items).map Option.toList

theorem filterStep_congr {table : OperatorTable} {size other i j : Nat}
    (h : i + 1 = size ↔ j + 1 = other) : filterStep table size i = filterStep table other j := by
  have hlast : (i + 1 == size) = (j + 1 == other) := by
    rw [Bool.eq_iff_iff, beq_iff_eq, beq_iff_eq, h]
  funext items
  rw [filterStep, filterStep, hlast]

/-- A join is written unless it stands last. -/
theorem filterStep_join {table : OperatorTable} {size index : Nat} (j : Join)
    (h : index + 1 < size) : filterStep table size index [.str j.word] = .ok [j.token] := by
  have hlast : (index + 1 == size) = false := by
    rw [beq_eq_false_iff_ne]
    omega
  have hname : Join.named? (.str j.word) = some j := by cases j <;> rfl
  simp [filterStep, filterFragment, hname, hlast, Except.map]

theorem filterFragmentsFrom_eq_pass (table : OperatorTable) (index : Nat) (clauses : List Value) :
    filterFragmentsFrom table index clauses =
      passFrom (filterStep table (index + clauses.length)) index clauses := by
  induction clauses generalizing index with
  | nil => rfl
  | cons clause clauses ih =>
    have hlast : clauses.isEmpty = (index + 1 == index + (clauses.length + 1)) := by
      cases clauses <;> simp
    rw [filterFragmentsFrom, passFrom, filterStep, List.length_cons, ← hlast, ih,
      show index + 1 + clauses.length = index + (clauses.length + 1) by omega]
    cases filterFragment table clauses.isEmpty (clauseItems clause) <;> rfl

/-- A list whose first element is no text is a list of clauses. -/
theorem normalizeClauses_list (h : ∀ first ∈ clauses.head?, first.isText = false) :
    normalizeClauses (.list clauses) = clauses := by
  cases clauses with
  | nil => rfl
  | cons first rest => simp [normalizeClauses, Value.items?, h first rfl]

/-- A filter is one pass over its clauses, ended by a separator. -/
theorem compileFilter_eq_pass (table : OperatorTable) (filter : Value) :
    compileFilter table filter =
      (passFrom (filterStep table (normalizeClauses filter).length) 0
        (normalizeClauses filter)).map terminated := by
  rw [compileFilter, filterFragmentsFrom_eq_pass, Nat.zero_add]

/-- Sorts: every key but one at the first position has a separator before it. -/
def sortStep : PassStep := fun index items => (sortKey items).map (placed index)

/-- A field with the word for a direction is a key with the token of the direction. -/
theorem sortStep_direction (index : Nat) (d : Direction) {field : Value}
    (h : field.isWritable = true) :
    sortStep index [field, .str d.word] = .ok (placed index (some (d.token ++ field.text))) := by
  have hname : Direction.named? (.str d.word) = some d := by cases d <;> rfl
  simp [sortStep, sortKey, hname, writtenFrom, h, Except.map]

theorem sortFragmentsFrom_eq_pass (index : Nat) (clauses : List Value) :
    sortFragmentsFrom index clauses = passFrom sortStep index clauses := by
  induction clauses generalizing index with
  | nil => rfl
  | cons clause clauses ih =>
    rw [sortFragmentsFrom, passFrom, sortStep, ih]
    cases sortKey (clauseItems clause) <;> rfl

/-- A sort is one pass over its clauses. -/
theorem compileSort_eq_pass (sort : Value) :
    compileSort sort = passFrom sortStep 0 (normalizeClauses sort) :=
  sortFragmentsFrom_eq_pass 0 (normalizeClauses sort)

/-! ## Clause lists with the same items -/

variable {f g : Value} {fragments : List String}

theorem compileFilter_notice_of_items (table : OperatorTable)
    (h : (normalizeClauses f).map clauseItems = (normalizeClauses g).map clauseItems) :
    (compileFilter table f).mapError BuildError.notice =
      (compileFilter table g).mapError BuildError.notice := by
  have hlength : (normalizeClauses f).length = (normalizeClauses g).length := by
    simpa using congrArg List.length h
  rw [compileFilter_eq_pass, compileFilter_eq_pass, mapError_map, mapError_map, hlength,
    passFrom_notice_of_items _ 0 h]

theorem compileSort_notice_of_items
    (h : (normalizeClauses f).map clauseItems = (normalizeClauses g).map clauseItems) :
    (compileSort f).mapError BuildError.notice = (compileSort g).mapError BuildError.notice := by
  rw [compileSort_eq_pass, compileSort_eq_pass, passFrom_notice_of_items _ 0 h]

theorem compileFilter_eq_ok_of_items {table : OperatorTable}
    (h : (normalizeClauses f).map clauseItems = (normalizeClauses g).map clauseItems)
    (hf : compileFilter table f = .ok fragments) : compileFilter table g = .ok fragments := by
  rw [← mapError_eq_ok (f := BuildError.notice)] at hf ⊢
  rw [← compileFilter_notice_of_items table h, hf]

theorem compileSort_eq_ok_of_items
    (h : (normalizeClauses f).map clauseItems = (normalizeClauses g).map clauseItems)
    (hf : compileSort f = .ok fragments) : compileSort g = .ok fragments := by
  rw [← mapError_eq_ok (f := BuildError.notice)] at hf ⊢
  rw [← compileSort_notice_of_items h, hf]

end CaretQuery
