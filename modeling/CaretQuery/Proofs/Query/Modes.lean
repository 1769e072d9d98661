import CaretQuery.Proofs.Filter.Outcome
import CaretQuery.Proofs.Sort.Outcome
import CaretQuery.Query.Build

/-! # Which mode a query is built in

Input for both modes is refused by what is given alone. Otherwise a filter or a
sort makes the query advanced, and its first fault is the error; without them
the query is a basic one, whose absent settings take their defaults.
-/
namespace CaretQuery

variable {table : OperatorTable} {filter sort : Value} {input other : QueryInput}
  {r : Except QueryError Query} {e : BuildError} {fault : Fault}

theorem Value.isNone_iff {v : Value} : v.isNone = true ↔ v = .none := by
  cases v <;> simp [Value.isNone]

theorem Value.isNone_eq_false_iff {v : Value} : v.isNone = false ↔ v ≠ .none := by
  rw [← Bool.not_eq_true, Value.isNone_iff]

/-! ## Advanced mode -/

/-- What comes of a filter and a sort. A missing sort is noticed first, whatever the filter holds;
then the filter is compiled, and the sort last. -/
inductive Advances (table : OperatorTable) (filter sort : Value) : Except QueryError Query → Prop
  | missingSort (hsort : sort = .none) :
      Advances table filter sort (.error (.build ⟨.missingSort, .none, none⟩))
  | filterFault {e : BuildError} (hsort : sort ≠ .none)
      (hfilter : compileFilter table filter = .error e) :
      Advances table filter sort (.error (.build e))
  | sortFault {e : BuildError} {fragments : List String} (hsort : sort ≠ .none)
      (hfilter : compileFilter table filter = .ok fragments) (hkeys : compileSort sort = .error e) :
      Advances table filter sort (.error (.build e))
  | query {fragments keys : List String} (hsort : sort ≠ .none)
      (hfilter : compileFilter table filter = .ok fragments) (hkeys : compileSort sort = .ok keys) :
      Advances table filter sort (.ok ⟨.advanced, String.join (fragments ++ keys)⟩)

theorem Advances.build_eq (h : Advances table filter sort r) :
    (QueryRequest.advanced table filter sort).build = r := by
  cases h with
  | missingSort hsort => simp [QueryRequest.build, advancedQuery, hsort, Value.isNone]
  | filterFault hsort hfilter =>
    simp [QueryRequest.build, advancedQuery, Value.isNone_eq_false_iff.2 hsort, hfilter]
  | sortFault hsort hfilter hkeys =>
    simp [QueryRequest.build, advancedQuery, Value.isNone_eq_false_iff.2 hsort, hfilter, hkeys,
      Except.map]
  | query hsort hfilter hkeys =>
    simp [QueryRequest.build, advancedQuery, Value.isNone_eq_false_iff.2 hsort, hfilter, hkeys,
      Except.map]

theorem exists_advances (table : OperatorTable) (filter sort : Value) :
    ∃ r, Advances table filter sort r := by
  by_cases hsort : sort = .none
  · exact ⟨_, .missingSort hsort⟩
  · cases hfilter : compileFilter table filter with
    | error e => exact ⟨_, .filterFault hsort hfilter⟩
    | ok fragments =>
      cases hkeys : compileSort sort with
      | error e => exact ⟨_, .sortFault hsort hfilter hkeys⟩
      | ok keys => exact ⟨_, .query hsort hfilter hkeys⟩

theorem build_advanced_eq_iff :
    (QueryRequest.advanced table filter sort).build = r ↔ Advances table filter sort r := by
  refine ⟨fun h => ?_, Advances.build_eq⟩
  obtain ⟨other, hother⟩ := exists_advances table filter sort
  obtain rfl : other = r := hother.build_eq.symm.trans h
  exact hother

/-! ## Kinds of faults -/

theorem Refused.kind_ne {last : Bool} {items : List Value} (h : Refused table last items fault) :
    fault.kind ≠ "ConflictingModeError" ∧ fault.kind ≠ "MissingSortError" := by
  cases h <;> simp [Fault.kind]

theorem Unsortable.kind_ne {items : List Value} (h : Unsortable items fault) :
    fault.kind ≠ "ConflictingModeError" ∧ fault.kind ≠ "MissingSortError" := by
  cases h <;> simp [Fault.kind]

theorem Raises.kind_ne {last : Bool} {items : List Value} (h : Raises table last items fault) :
    fault.kind ≠ "ConflictingModeError" := by
  cases h with
  | refused hrefused hlegible => exact hrefused.kind_ne.1
  | longInteger hshown hv => simp [Fault.kind]

theorem SortRaises.kind_ne {items : List Value} (h : SortRaises items fault) :
    fault.kind ≠ "ConflictingModeError" := by
  cases h with
  | unsortable hunsortable hlegible => exact hunsortable.kind_ne.1
  | longInteger hcount hmem hv => simp [Fault.kind]

theorem Advances.kind_ne (h : Advances table filter sort (.error (.build e))) :
    e.fault.kind ≠ "ConflictingModeError" := by
  cases h with
  | missingSort _ => simp [Fault.kind]
  | filterFault _ hfilter =>
    obtain ⟨_, _, fault, -, hraises, -, rfl⟩ := raises_of_compileFilter hfilter
    exact hraises.kind_ne
  | sortFault _ _ hkeys =>
    obtain ⟨_, _, fault, -, hraises, -, rfl⟩ := sortRaises_of_compileSort hkeys
    exact hraises.kind_ne

theorem raised_invalidDirection (v : Value) : (Fault.invalidDirection v).raised =
    if v.isWritable then .invalidDirection v else .longInteger := by
  cases hwritable : v.isWritable <;> simp [Fault.raised, Fault.quotes, hwritable]

/-- A refusal carries the value, and shows it if it can be written. -/
theorem coerce_eq_error {v : Value} (h : Direction.coerce v = .error e) :
    e = ⟨(Fault.invalidDirection v).raised, v, none⟩ := by
  cases v with
  | direction d => cases h
  | _ =>
    simp only [Direction.coerce] at h
    rw [raised_invalidDirection]
    split at h
    next hwritable =>
      split at h
      next => cases h
      next =>
        rw [if_pos hwritable]
        exact (Except.error.inj h).symm
    next hlong =>
      rw [if_neg hlong]
      exact (Except.error.inj h).symm

theorem kind_ne_of_build_basic {basic : BasicInput}
    (h : (QueryRequest.basic basic).build = .error (.build e)) :
    e.fault.kind ≠ "ConflictingModeError" := by
  rw [QueryRequest.build, basicQuery] at h
  cases hdirection : Direction.coerce basic.direction with
  | error other =>
    rw [hdirection] at h
    obtain rfl : other = e := by simpa [Except.map] using h
    rw [coerce_eq_error hdirection, Fault.raised]
    split <;> simp [Fault.kind]
  | ok direction =>
    rw [hdirection] at h
    cases hmatches : basicMatches basic <;> rw [hmatches] at h <;> cases h

/-! ## The choice of the mode -/

namespace QueryInput

/-- A filter or a sort is given, if only an empty one. -/
def GivesAdvanced (input : QueryInput) : Prop := input.filter ≠ .none ∨ input.sort ≠ .none

/-- A filter or a sort is given, and so is a setting of basic mode, if only an empty one. -/
def Conflicts (input : QueryInput) : Prop :=
  input.GivesAdvanced ∧ (input.orderBy ≠ .none ∨ input.direction ≠ .none ∨
    input.exact ≠ .none ∨ input.contains ≠ .none)

/-- The names of exactly the settings of basic mode that are given, in their fixed order. -/
structure Gives (input : QueryInput) (options : List String) : Prop where
  ordered : options.Sublist ["order_by", "order_direction", "match_exact", "match_contains"]
  orderBy : "order_by" ∈ options ↔ input.orderBy ≠ .none
  direction : "order_direction" ∈ options ↔ input.direction ≠ .none
  exact : "match_exact" ∈ options ↔ input.exact ≠ .none
  contains : "match_contains" ∈ options ↔ input.contains ≠ .none

/-- The same settings of basic mode are given, with any values. -/
structure SameGiven (input other : QueryInput) : Prop where
  orderBy : input.orderBy = .none ↔ other.orderBy = .none
  direction : input.direction = .none ↔ other.direction = .none
  exact : input.exact = .none ↔ other.exact = .none
  contains : input.contains = .none ↔ other.contains = .none

/-- The input of basic mode that holds what is given, and the defaults for the rest. -/
def given (input : QueryInput) : BasicInput where
  orderBy := if input.orderBy.isNone then ({} : BasicInput).orderBy else input.orderBy
  direction := if input.direction.isNone then ({} : BasicInput).direction else input.direction
  exact := if input.exact.isNone then ({} : BasicInput).exact else input.exact
  contains := if input.contains.isNone then ({} : BasicInput).contains else input.contains

theorem isAdvanced_iff : input.isAdvanced = true ↔ input.GivesAdvanced := by
  simp [isAdvanced, GivesAdvanced, Value.isNone_eq_false_iff]

theorem basicOptions_eq_nil_iff : input.basicOptions = [] ↔
    input.orderBy = .none ∧ input.direction = .none ∧ input.exact = .none ∧
      input.contains = .none := by
  simp [basicOptions, Value.isNone_iff]

theorem gives_basicOptions (input : QueryInput) : input.Gives input.basicOptions := by
  refine ⟨?_, ?_, ?_, ?_, ?_⟩
  · exact List.filter_sublist.map Prod.fst
  all_goals simp [basicOptions, Value.isNone_eq_false_iff]

theorem basicOptions_congr (h : input.SameGiven other) :
    other.basicOptions = input.basicOptions := by
  have hsame : ∀ {v w : Value}, (v = .none ↔ w = .none) → w.isNone = v.isNone := by
    intro v w hvw
    rw [Bool.eq_iff_iff, Value.isNone_iff, Value.isNone_iff, hvw]
  simp only [basicOptions, List.filter_cons, List.filter_nil, hsame h.orderBy, hsame h.direction,
    hsame h.exact, hsame h.contains, apply_ite (List.map Prod.fst), List.map_cons, List.map_nil]

theorem conflicts_iff : input.Conflicts ↔ input.GivesAdvanced ∧ input.basicOptions ≠ [] := by
  simp only [Conflicts, ne_eq, basicOptions_eq_nil_iff, not_and_or]

end QueryInput

open QueryInput

theorem buildQuery_of_conflicts (h : input.Conflicts) :
    buildQuery input =
      .error (.build ⟨.conflictingModes input.basicOptions, .none, none⟩) := by
  obtain ⟨hadvanced, hoptions⟩ := conflicts_iff.1 h
  simp [buildQuery, isAdvanced_iff.2 hadvanced, hoptions]

theorem buildQuery_of_advanced_alone (hadvanced : input.GivesAdvanced) (h : ¬input.Conflicts) :
    buildQuery input = (QueryRequest.advanced input.table input.filter input.sort).build := by
  have hoptions : input.basicOptions = [] := by
    by_contra hne
    exact h (conflicts_iff.2 ⟨hadvanced, hne⟩)
  simp [buildQuery, isAdvanced_iff.2 hadvanced, hoptions, QueryRequest.build]

theorem buildQuery_of_basic (h : ¬input.GivesAdvanced) :
    buildQuery input = (QueryRequest.basic input.toBasic).build := by
  have hbasic : input.isAdvanced = false := by
    rw [← Bool.not_eq_true, isAdvanced_iff]
    exact h
  simp [buildQuery, hbasic, QueryRequest.build]

/-- A truthy value is taken as it is, both where defaults stand for falsy values and where they
stand for absent ones. -/
theorem ite_isTruthy_eq {v default : Value} (h : v = .none ∨ v.isTruthy = true) :
    (if v.isTruthy then v else default) = if v.isNone then default else v := by
  rcases h with rfl | h
  · rfl
  · have hgiven : v.isNone = false := by
      rw [Value.isNone_eq_false_iff]
      rintro rfl
      cases h
    simp [h, hgiven]

theorem ite_isNone_none (v : Value) : (if v.isNone then .none else v) = v := by
  cases v <;> rfl

theorem QueryInput.toBasic_eq_given
    (horder : input.orderBy = .none ∨ input.orderBy.isTruthy = true)
    (hdirection : input.direction = .none ∨ input.direction.isTruthy = true) :
    input.toBasic = input.given := by
  rw [toBasic, given, ite_isTruthy_eq horder, ite_isTruthy_eq hdirection, ite_isNone_none,
    ite_isNone_none]

/-- Input for both modes is the only reason for a conflict. -/
theorem conflict_iff_conflicts :
    (∃ e, buildQuery input = .error (.build e) ∧ e.fault.kind = "ConflictingModeError") ↔
      input.Conflicts := by
  constructor
  · rintro ⟨e, herror, hkind⟩
    by_contra hnot
    by_cases hadvanced : input.GivesAdvanced
    · rw [buildQuery_of_advanced_alone hadvanced hnot] at herror
      exact (build_advanced_eq_iff.1 herror).kind_ne hkind
    · rw [buildQuery_of_basic hadvanced] at herror
      exact kind_ne_of_build_basic herror hkind
  · intro h
    exact ⟨_, buildQuery_of_conflicts h, rfl⟩

/-- Every input is judged by what is given first: input for both modes is a
conflict that names the given settings of basic mode, whatever they and the
filter and the sort hold. A filter or a sort without such settings goes the way
of advanced mode, and input without both that of basic mode, in which only what
is given matters. -/
theorem buildQuery_by_given (input : QueryInput) :
    ((∃ e, buildQuery input = .error (.build e) ∧ e.fault.kind = "ConflictingModeError") ↔
      input.Conflicts) ∧
    (input.Conflicts → ∃ options, input.Gives options ∧
      ∀ other : QueryInput, other.GivesAdvanced → input.SameGiven other →
        ∃ e, buildQuery other = .error (.build e) ∧ e.fault = .conflictingModes options ∧
          e.message = "filter/sort cannot be combined with basic-mode options: " ++
            ", ".intercalate options) ∧
    (input.GivesAdvanced → ¬input.Conflicts →
      buildQuery input = (QueryRequest.advanced input.table input.filter input.sort).build ∧
      ∀ r, buildQuery input = r ↔ Advances input.table input.filter input.sort r) ∧
    (input.filter = .none → input.sort = .none →
      (input.orderBy = .none ∨ input.orderBy.isTruthy = true) →
      (input.direction = .none ∨ input.direction.isTruthy = true) →
      buildQuery input = (QueryRequest.basic input.given).build) := by
  refine ⟨conflict_iff_conflicts, ?_, ?_, ?_⟩
  · intro h
    refine ⟨input.basicOptions, input.gives_basicOptions, ?_⟩
    intro other hadvanced hsame
    have hoptions := basicOptions_congr hsame
    have hconflicts : other.Conflicts :=
      conflicts_iff.2 ⟨hadvanced, hoptions ▸ (conflicts_iff.1 h).2⟩
    exact ⟨_, buildQuery_of_conflicts hconflicts, by rw [hoptions], by rw [hoptions]; rfl⟩
  · intro hadvanced h
    rw [buildQuery_of_advanced_alone hadvanced h]
    exact ⟨rfl, fun r => build_advanced_eq_iff⟩
  · intro hfilter hsort horder hdirection
    have hbasic : ¬input.GivesAdvanced := by simp [GivesAdvanced, hfilter, hsort]
    rw [buildQuery_of_basic hbasic, toBasic_eq_given horder hdirection]

/-- An empty order field beside a join that is none, a malformed filter without a sort, and an
order field alone. -/
theorem buildQuery_by_given_three :
    (∃ options, QueryInput.Gives { filter := .str "nor", orderBy := .str "" } options ∧
      ∃ e, buildQuery { filter := .str "nor", orderBy := .str "" } = .error (.build e) ∧
        e.fault = .conflictingModes options) ∧
    buildQuery { filter := .str "nor" } = .error (.build ⟨.missingSort, .none, none⟩) ∧
    buildQuery { orderBy := .str "number" } =
      (QueryRequest.basic { orderBy := .str "number" }).build := by
  obtain ⟨-, hconflict, -, -⟩ := buildQuery_by_given { filter := .str "nor", orderBy := .str "" }
  obtain ⟨-, -, hadvanced, -⟩ := buildQuery_by_given { filter := .str "nor" }
  obtain ⟨-, -, -, hbasic⟩ := buildQuery_by_given { orderBy := .str "number" }
  refine ⟨?_, ?_, ?_⟩
  · obtain ⟨options, hgives, hall⟩ := hconflict ⟨.inl (by simp), .inl (by simp)⟩
    obtain ⟨e, he, hfault, -⟩ := hall { filter := .str "nor", orderBy := .str "" }
      (.inl (by simp)) ⟨.rfl, .rfl, .rfl, .rfl⟩
    exact ⟨options, hgives, e, he, hfault⟩
  · exact ((hadvanced (.inl (by simp)) (by simp [Conflicts])).2 _).2 (.missingSort rfl)
  · exact hbasic rfl rfl (.inr rfl) (.inl rfl)

end CaretQuery
