import CaretQuery.Proofs.ClausePass
import CaretQuery.Proofs.Naming
import CaretQuery.Proofs.Number.Digits
import Mathlib.Data.List.Forall2

/-! # Which filters compile, and to what

A clause is judged by its items, by the operators of the table and by whether
it stands last. A filter of acceptable clauses gives one fragment for every
clause with items and a separator behind them; any other filter fails at its
first clause that is not acceptable, with the fault of that clause. Both hold
as far as what has to be shown can be written: an integer with too many digits
ends the call where its text is needed, for a fragment or for a message.
-/
namespace CaretQuery

/-- The items that a clause may have, at the last position or before it. -/
inductive Acceptable (table : OperatorTable) (last : Bool) : List Value → Prop
  | empty : Acceptable table last []
  | join {word : Value} (j : Join) (hword : word.asText? = some j.word) (hlast : last = false) :
      Acceptable table last [word]
  | test {field name : Value} (op : Operator) (hop : op ∈ table.rows)
      (hname : name.asText? = some op.name) (hvalue : op.requiresValue = false) :
      Acceptable table last [field, name]
  | comparison {field name value : Value} (op : Operator) (hop : op ∈ table.rows)
      (hname : name.asText? = some op.name) : Acceptable table last [field, name, value]

/-- The fragment for the items of a clause. -/
inductive Encodes (table : OperatorTable) : List Value → String → Prop
  | join {word : Value} (j : Join) (hword : word.asText? = some j.word) :
      Encodes table [word] j.token
  | test {field name : Value} (op : Operator) (hop : op ∈ table.rows)
      (hname : name.asText? = some op.name) : Encodes table [field, name] (field.text ++ op.token)
  | comparison {field name value : Value} (op : Operator) (hop : op ∈ table.rows)
      (hname : name.asText? = some op.name) :
      Encodes table [field, name, value] (field.text ++ op.token ++ value.text)

/-- The items that a clause may not have, each with the fault that is reported. -/
inductive Refused (table : OperatorTable) (last : Bool) : List Value → Fault → Prop
  | unsupportedJoin {word : Value} (hword : ∀ j : Join, word.asText? ≠ some j.word) :
      Refused table last [word] (.unsupportedJoin word)
  | trailingJoin {word : Value} (j : Join) (hword : word.asText? = some j.word)
      (hlast : last = true) : Refused table last [word] (.trailingJoin j)
  | unknownOperator {field name : Value} {values : List Value} (hvalues : values.length ≤ 1)
      (hname : ∀ op ∈ table.rows, name.asText? ≠ some op.name) :
      Refused table last (field :: name :: values) (.unknownOperator name field)
  | missingValue {field name : Value} (op : Operator) (hop : op ∈ table.rows)
      (hname : name.asText? = some op.name) (hvalue : op.requiresValue = true) :
      Refused table last [field, name] (.missingValue op field)
  | tooManyItems {items : List Value} (hcount : 4 ≤ items.length) :
      Refused table last items (.tooManyFilterItems items.length)

/-- The values that the fragment of a clause shows, or the message of its fault: the field and the
operator, a value behind an operator of the table, or what stands alone. -/
inductive Shows (table : OperatorTable) : List Value → Value → Prop
  | single {word : Value} : Shows table [word] word
  | field {field name : Value} {values : List Value} (hvalues : values.length ≤ 1) :
      Shows table (field :: name :: values) field
  | name {field name : Value} {values : List Value} (hvalues : values.length ≤ 1) :
      Shows table (field :: name :: values) name
  | value {field name value : Value} (op : Operator) (hop : op ∈ table.rows)
      (hname : name.asText? = some op.name) : Shows table [field, name, value] value

/-- All that has to be shown of the items can be written. -/
def IsLegible (table : OperatorTable) (items : List Value) : Prop :=
  ∀ v, Shows table items v → v.isWritable = true

/-- What is raised for items that give no fragment: their fault, or the error of an integer that
would have to be shown. -/
inductive Raises (table : OperatorTable) (last : Bool) (items : List Value) : Fault → Prop
  | refused {fault : Fault} (h : Refused table last items fault)
      (hlegible : IsLegible table items) : Raises table last items fault
  | longInteger {v : Value} (h : Shows table items v) (hv : v.isWritable = false) :
      Raises table last items .longInteger

variable {table : OperatorTable} {last : Bool} {items : List Value}

theorem Shows.mem {v : Value} (h : Shows table items v) : v ∈ items := by
  cases h <;> simp

/-! ## One clause -/

theorem filterFragment_of_encodes {fragment : String} (ha : Acceptable table last items)
    (hlegible : IsLegible table items) (he : Encodes table items fragment) :
    filterFragment table last items = .ok (some fragment) := by
  cases he with
  | join j hword =>
    cases ha with
    | join _ _ hlast => simp [filterFragment, Join.named?_eq_some_iff.2 hword, hlast]
  | test op hop hname =>
    cases ha with
    | test other hother hname' hvalue =>
      have hop' := OperatorTable.named?_eq_some_iff.2 ⟨hop, hname⟩
      obtain rfl : other = op :=
        Option.some.inj ((OperatorTable.named?_eq_some_iff.2 ⟨hother, hname'⟩).symm.trans hop')
      simp [filterFragment, hop', hvalue, writtenFrom, hlegible _ (.field (Nat.zero_le 1))]
  | comparison op hop hname =>
    simp [filterFragment, OperatorTable.named?_eq_some_iff.2 ⟨hop, hname⟩, writtenFrom,
      hlegible _ (.field (Nat.le_refl 1)), hlegible _ (.value op hop hname)]

theorem Refused.raised_eq {fault : Fault} (h : Refused table last items fault)
    (hlegible : IsLegible table items) : fault.raised = fault := by
  apply Fault.raised_of_writable
  cases h with
  | unsupportedJoin hword => simpa [Fault.quotes] using hlegible _ .single
  | unknownOperator hvalues hname =>
    simpa [Fault.quotes] using ⟨hlegible _ (.name hvalues), hlegible _ (.field hvalues)⟩
  | missingValue op hop hname hvalue =>
    simpa [Fault.quotes] using hlegible _ (.field (Nat.zero_le 1))
  | _ => simp [Fault.quotes]

theorem filterFragment_of_refused {fault : Fault} (h : Refused table last items fault) :
    filterFragment table last items = .error fault.raised := by
  cases h with
  | unsupportedJoin hword => simp [filterFragment, Join.named?_eq_none_iff.2 hword]
  | trailingJoin j hword hlast =>
    simp [filterFragment, Join.named?_eq_some_iff.2 hword, hlast, Fault.raised, Fault.quotes]
  | @unknownOperator field name values hvalues hname =>
    have hnone := OperatorTable.named?_eq_none_iff.2 hname
    rcases values with _ | ⟨value, _ | ⟨other, values⟩⟩
    · simp [filterFragment, hnone]
    · simp [filterFragment, hnone]
    · simp at hvalues
  | missingValue op hop hname hvalue =>
    simp [filterFragment, OperatorTable.named?_eq_some_iff.2 ⟨hop, hname⟩, hvalue]
  | tooManyItems hcount =>
    rcases items with _ | ⟨a, _ | ⟨b, _ | ⟨c, _ | ⟨d, items⟩⟩⟩⟩
    all_goals simp [filterFragment, Fault.raised, Fault.quotes] at hcount ⊢

/-- Whatever is wrong with a clause besides, it cannot be told without the text of its values. -/
theorem filterFragment_of_not_writable {v : Value} (h : Shows table items v)
    (hv : v.isWritable = false) : filterFragment table last items = .error .longInteger := by
  -- A name that is not writable is no text, so it names nothing.
  have hnone (ops : OperatorTable) : ops.named? v = none := by
    rw [OperatorTable.named?_eq_none_iff]
    intro op _ hname
    simp [Value.isWritable_of_asText? hname] at hv
  cases h with
  | single =>
    have hjoin : Join.named? v = none := by
      rw [Join.named?_eq_none_iff]
      intro j hword
      simp [Value.isWritable_of_asText? hword] at hv
    simp [filterFragment, hjoin, Fault.raised, Fault.quotes, hv]
  | @field _ name values hvalues =>
    rcases values with _ | ⟨value, _ | ⟨other, values⟩⟩
    · cases hop : table.named? name with
      | none => simp [filterFragment, hop, Fault.raised, Fault.quotes, hv]
      | some op =>
        cases hvalue : op.requiresValue <;>
          simp [filterFragment, hop, hvalue, writtenFrom, Fault.raised, Fault.quotes, hv]
    · cases hop : table.named? name <;>
        simp [filterFragment, hop, writtenFrom, Fault.raised, Fault.quotes, hv]
    · simp at hvalues
  | @name field _ values hvalues =>
    rcases values with _ | ⟨value, _ | ⟨other, values⟩⟩
    · simp [filterFragment, hnone, Fault.raised, Fault.quotes, hv]
    · simp [filterFragment, hnone, Fault.raised, Fault.quotes, hv]
    · simp at hvalues
  | value op hop hname =>
    simp [filterFragment, OperatorTable.named?_eq_some_iff.2 ⟨hop, hname⟩, writtenFrom, hv]

theorem Acceptable.exists_encodes (h : Acceptable table last items) :
    items = [] ∨ ∃ fragment, Encodes table items fragment := by
  cases h with
  | empty => exact .inl rfl
  | join j hword _ => exact .inr ⟨_, .join j hword⟩
  | test op hop hname _ => exact .inr ⟨_, .test op hop hname⟩
  | comparison op hop hname => exact .inr ⟨_, .comparison op hop hname⟩

theorem Encodes.ne_nil {fragment : String} (h : Encodes table items fragment) : items ≠ [] := by
  cases h <;> simp

theorem acceptable_or_refused (table : OperatorTable) (last : Bool) (items : List Value) :
    Acceptable table last items ∨ ∃ fault, Refused table last items fault := by
  match items with
  | [] => exact .inl .empty
  | [word] =>
    cases h : Join.named? word with
    | none => exact .inr ⟨_, .unsupportedJoin (Join.named?_eq_none_iff.1 h)⟩
    | some j =>
      have hword := Join.named?_eq_some_iff.1 h
      cases last with
      | true => exact .inr ⟨_, .trailingJoin j hword rfl⟩
      | false => exact .inl (.join j hword rfl)
  | [field, name] =>
    cases h : table.named? name with
    | none => exact .inr ⟨_, .unknownOperator (by simp) (OperatorTable.named?_eq_none_iff.1 h)⟩
    | some op =>
      obtain ⟨hop, hname⟩ := OperatorTable.named?_eq_some_iff.1 h
      cases hvalue : op.requiresValue with
      | true => exact .inr ⟨_, .missingValue op hop hname hvalue⟩
      | false => exact .inl (.test op hop hname hvalue)
  | [field, name, value] =>
    cases h : table.named? name with
    | none => exact .inr ⟨_, .unknownOperator (by simp) (OperatorTable.named?_eq_none_iff.1 h)⟩
    | some op =>
      obtain ⟨hop, hname⟩ := OperatorTable.named?_eq_some_iff.1 h
      exact .inl (.comparison op hop hname)
  | _ :: _ :: _ :: _ :: _ => exact .inr ⟨_, .tooManyItems (by simp)⟩

/-- The items have a fragment, or there are none. -/
structure Compiles (table : OperatorTable) (last : Bool) (items : List Value) : Prop where
  acceptable : Acceptable table last items
  legible : IsLegible table items

theorem compiles_or_raises (table : OperatorTable) (last : Bool) (items : List Value) :
    Compiles table last items ∨ ∃ fault, Raises table last items fault := by
  by_cases hlegible : IsLegible table items
  · rcases acceptable_or_refused table last items with ha | ⟨fault, hr⟩
    · exact .inl ⟨ha, hlegible⟩
    · exact .inr ⟨fault, .refused hr hlegible⟩
  · simp only [IsLegible, not_forall, Bool.not_eq_true] at hlegible
    obtain ⟨v, hshown, hv⟩ := hlegible
    exact .inr ⟨_, .longInteger hshown hv⟩

theorem filterFragment_of_raises {fault : Fault} (h : Raises table last items fault) :
    filterFragment table last items = .error fault := by
  cases h with
  | refused hr hlegible => rw [filterFragment_of_refused hr, hr.raised_eq hlegible]
  | longInteger hshown hv => exact filterFragment_of_not_writable hshown hv

theorem filterFragment_eq_error {fault : Fault} :
    filterFragment table last items = .error fault ↔ Raises table last items fault := by
  refine ⟨fun h => ?_, filterFragment_of_raises⟩
  rcases compiles_or_raises table last items with hc | ⟨other, hr⟩
  · rcases hc.acceptable.exists_encodes with rfl | ⟨fragment, he⟩
    · cases h
    · cases (filterFragment_of_encodes hc.acceptable hc.legible he).symm.trans h
  · rw [filterFragment_of_raises hr] at h
    exact Except.error.inj h ▸ hr

theorem filterStep_eq_error {size index : Nat} {fault : Fault} :
    filterStep table size index items = .error fault ↔
      Raises table (index + 1 == size) items fault := by
  rw [filterStep, ← filterFragment_eq_error]
  cases filterFragment table (index + 1 == size) items <;> simp [Except.map]

theorem exists_filterStep_of_compiles {size index : Nat}
    (h : Compiles table (index + 1 == size) items) :
    ∃ texts, filterStep table size index items = .ok texts ∧
      List.Forall₂ (Encodes table) ([items].filter fun items => !items.isEmpty) texts := by
  rcases h.acceptable.exists_encodes with rfl | ⟨fragment, he⟩
  · exact ⟨[], rfl, .nil⟩
  · refine ⟨[fragment], ?_, ?_⟩
    · rw [filterStep, filterFragment_of_encodes h.acceptable h.legible he]
      rfl
    · have hne : (!items.isEmpty) = true := by simpa using he.ne_nil
      rw [List.filter_singleton, hne]
      exact .cons he .nil

/-! ## The whole filter -/

/-- The items of the clauses that have any. -/
def writtenItems (clauses : List Value) : List (List Value) :=
  (clauses.map clauseItems).filter fun items => !items.isEmpty

theorem writtenItems_cons (clause : Value) (clauses : List Value) :
    writtenItems (clause :: clauses) =
      [clauseItems clause].filter (fun items => !items.isEmpty) ++ writtenItems clauses := by
  simp only [writtenItems, List.map_cons, ← List.filter_append, List.singleton_append]

/-- Clauses that compile are passed without an error, one fragment for each that has items. -/
theorem passFrom_of_compiles (size index : Nat) (clauses : List Value)
    (h : ∀ i clause, clauses[i]? = some clause →
      Compiles table (index + i + 1 == size) (clauseItems clause)) :
    ∃ body, passFrom (filterStep table size) index clauses = .ok body ∧
      List.Forall₂ (Encodes table) (writtenItems clauses) body := by
  induction clauses generalizing index with
  | nil => exact ⟨[], rfl, .nil⟩
  | cons clause clauses ih =>
    obtain ⟨first, hfirst, hencodes⟩ := exists_filterStep_of_compiles (h 0 clause rfl)
    obtain ⟨rest, hrest, hencodes'⟩ := ih (index + 1) (by
      intro i later hlater
      have hi := h (i + 1) later hlater
      rwa [show index + (i + 1) = index + 1 + i by omega] at hi)
    refine ⟨first ++ rest, ?_, ?_⟩
    · exact passFrom_cons_eq_ok.2 ⟨first, rest, hfirst, hrest, rfl⟩
    · rw [writtenItems_cons]
      exact List.rel_append hencodes hencodes'

/-- The clause at a position of a filter compiles there. -/
def CompilesAt (table : OperatorTable) (clauses : List Value) (i : Nat) : Prop :=
  ∃ clause, clauses[i]? = some clause ∧
    Compiles table (i + 1 == clauses.length) (clauseItems clause)

/-- The error of a filter is what is raised for a clause behind ones that compile. -/
theorem raises_of_compileFilter {filter : Value} {e : BuildError}
    (h : compileFilter table filter = .error e) :
    ∃ i clause fault, (normalizeClauses filter)[i]? = some clause ∧
      Raises table (i + 1 == (normalizeClauses filter).length) (clauseItems clause) fault ∧
      (∀ j < i, CompilesAt table (normalizeClauses filter) j) ∧ e = ⟨fault, clause, some i⟩ := by
  rw [compileFilter_eq_pass] at h
  cases hpass : passFrom (filterStep table (normalizeClauses filter).length) 0
      (normalizeClauses filter) with
  | ok texts =>
    rw [hpass] at h
    cases h
  | error other =>
    rw [hpass] at h
    obtain rfl := Except.error.inj h
    obtain ⟨i, clause, fault, ⟨hclause, hfault, hbefore⟩, rfl⟩ := passFrom_eq_error.1 hpass
    rw [Nat.zero_add] at hfault
    refine ⟨i, clause, fault, hclause, filterStep_eq_error.1 hfault, ?_, by rw [Nat.zero_add]⟩
    intro j hj
    have hlength := (List.getElem?_eq_some_iff.1 hclause).1
    obtain ⟨earlier, hearlier⟩ : ∃ earlier, (normalizeClauses filter)[j]? = some earlier :=
      ⟨_, List.getElem?_eq_getElem (Nat.lt_trans hj hlength)⟩
    obtain ⟨texts, htexts⟩ := hbefore j hj earlier hearlier
    rw [Nat.zero_add] at htexts
    refine ⟨earlier, hearlier, ?_⟩
    rcases compiles_or_raises table (j + 1 == (normalizeClauses filter).length)
      (clauseItems earlier) with hc | ⟨other, hr⟩
    · exact hc
    · cases htexts.symm.trans (filterStep_eq_error.2 hr)

theorem terminated_eq_append (fragments : List String) :
    terminated fragments = fragments ++ if fragments = [] then [] else [separator] := by
  cases fragments <;> rfl

end CaretQuery
