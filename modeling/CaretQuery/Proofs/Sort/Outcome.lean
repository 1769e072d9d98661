import CaretQuery.Proofs.ClausePass
import CaretQuery.Proofs.Naming
import CaretQuery.Proofs.Number.Digits
import CaretQuery.Text.Split
import Mathlib.Data.List.Forall2

/-! # Which sorts compile, and to what

A sort clause is judged by its items alone. A clause with items gives a key,
and its position decides whether a separator stands before the key. So a clause
without items counts at the front only, where it makes the first key a later
one. An integer with too many digits to be shown ends the call, as in a filter.
-/
namespace CaretQuery

/-- The items that a sort clause may have. -/
inductive Sortable : List Value → Prop
  | empty : Sortable []
  | ascending {field : Value} : Sortable [field]
  | directed {field word : Value} (d : Direction) (hword : word.asText? = some d.word) :
      Sortable [field, word]

/-- The key for the items of a sort clause whose field has a text. -/
inductive SortsBy : List Value → String → Prop
  | ascending {field : Value} (hfield : field.isWritable = true) :
      SortsBy [field] (Direction.asc.token ++ field.text)
  | directed {field word : Value} (d : Direction) (hword : word.asText? = some d.word)
      (hfield : field.isWritable = true) : SortsBy [field, word] (d.token ++ field.text)

/-- The items that a sort clause may not have, each with the fault that is reported. -/
inductive Unsortable : List Value → Fault → Prop
  | invalidDirection {field word : Value} (hword : ∀ d : Direction, word.asText? ≠ some d.word) :
      Unsortable [field, word] (.invalidSortDirection word field)
  | tooManyItems {items : List Value} (hcount : 3 ≤ items.length) :
      Unsortable items (.tooManySortItems items.length)

/-- All items of a clause of one or two are shown, in its key or in the message of its fault. -/
def IsLegibleKey (items : List Value) : Prop :=
  items.length ≤ 2 → ∀ v ∈ items, v.isWritable = true

/-- The items have a key, or there are none. -/
structure SortCompiles (items : List Value) : Prop where
  sortable : Sortable items
  legible : IsLegibleKey items

/-- What is raised for items that give no key. -/
inductive SortRaises (items : List Value) : Fault → Prop
  | unsortable {fault : Fault} (h : Unsortable items fault) (hlegible : IsLegibleKey items) :
      SortRaises items fault
  | longInteger {v : Value} (hcount : items.length ≤ 2) (hmem : v ∈ items)
      (hv : v.isWritable = false) : SortRaises items .longInteger

/-- The fragments for the items of a clause at a position. -/
inductive PlacesKey : Nat → List Value → List String → Prop
  | nothing {index : Nat} : PlacesKey index [] []
  | first {items : List Value} {key : String} (h : SortsBy items key) : PlacesKey 0 items [key]
  | later {index : Nat} {items : List Value} {key : String} (h : SortsBy items key) :
      PlacesKey (index + 1) items ["^", key]

variable {index : Nat} {items : List Value} {clause : Value} {clauses : List Value}
  {fragments : List String} {fault : Fault}

/-! ## One clause -/

theorem sortKey_of_sortsBy {key : String} (h : SortsBy items key) :
    sortKey items = .ok (some key) := by
  cases h with
  | ascending hfield => exact writtenFrom_of_writable (List.forall_mem_singleton.2 hfield) _
  | directed d hword hfield =>
    simp [sortKey, Direction.named?_eq_some_iff.2 hword, writtenFrom, hfield]

theorem sortKey_of_unsortable (h : Unsortable items fault) (hlegible : IsLegibleKey items) :
    sortKey items = .error fault := by
  cases h with
  | @invalidDirection field word hword =>
    have hitems := hlegible (by simp)
    simp [sortKey, Direction.named?_eq_none_iff.2 hword, Fault.raised, Fault.quotes, hitems]
  | tooManyItems hcount =>
    rcases items with _ | ⟨a, _ | ⟨b, _ | ⟨c, items⟩⟩⟩
    all_goals simp [sortKey] at hcount ⊢

theorem sortKey_of_not_writable {v : Value} (hcount : items.length ≤ 2) (hmem : v ∈ items)
    (hv : v.isWritable = false) : sortKey items = .error .longInteger := by
  rcases items with _ | ⟨field, _ | ⟨word, _ | ⟨c, items⟩⟩⟩
  · simp at hmem
  · exact writtenFrom_of_not_writable hmem hv _
  · cases hword : Direction.named? word with
    | none =>
      rw [sortKey, hword]
      exact congrArg Except.error
        (Fault.raised_of_not_writable (by simpa [Fault.quotes, or_comm] using hmem) hv)
    | some d =>
      -- A word for a direction is a text, so it is the field that cannot be written.
      obtain rfl : v = field := by
        rcases List.mem_pair.1 hmem with h | rfl
        · exact h
        · simp [Value.isWritable_of_asText? (Direction.named?_eq_some_iff.1 hword)] at hv
      simp [sortKey, hword, writtenFrom, hv]
  · simp at hcount

theorem sortsBy_or_raises (items : List Value) :
    items = [] ∨ (∃ key, SortsBy items key) ∨ ∃ fault, SortRaises items fault := by
  by_cases hlegible : IsLegibleKey items
  · match items with
    | [] => exact .inl rfl
    | [field] =>
      exact .inr (.inl ⟨_, .ascending (hlegible (by simp) field (by simp))⟩)
    | [field, word] =>
      cases h : Direction.named? word with
      | none =>
        exact .inr (.inr ⟨_,
          .unsortable (.invalidDirection (Direction.named?_eq_none_iff.1 h)) hlegible⟩)
      | some d =>
        exact .inr (.inl ⟨_, .directed d (Direction.named?_eq_some_iff.1 h)
          (hlegible (by simp) field (by simp))⟩)
    | _ :: _ :: _ :: _ =>
      exact .inr (.inr ⟨_, .unsortable (.tooManyItems (by simp)) hlegible⟩)
  · simp only [IsLegibleKey, Classical.not_imp, not_forall, Bool.not_eq_true] at hlegible
    obtain ⟨hcount, v, hmem, hv⟩ := hlegible
    exact .inr (.inr ⟨_, .longInteger hcount hmem hv⟩)

theorem sortKey_of_raises (h : SortRaises items fault) : sortKey items = .error fault := by
  cases h with
  | unsortable h hlegible => exact sortKey_of_unsortable h hlegible
  | longInteger hcount hmem hv => exact sortKey_of_not_writable hcount hmem hv

theorem sortCompiles_iff : SortCompiles items ↔ items = [] ∨ ∃ key, SortsBy items key := by
  constructor
  · rintro ⟨_ | _ | ⟨d, hword⟩, hlegible⟩
    · exact .inl rfl
    · exact .inr ⟨_, .ascending (hlegible (by simp) _ (by simp))⟩
    · exact .inr ⟨_, .directed d hword (hlegible (by simp) _ (by simp))⟩
  · rintro (rfl | ⟨key, h⟩)
    · exact ⟨.empty, fun _ => nofun⟩
    · cases h with
      | ascending hfield => exact ⟨.ascending, fun _ => List.forall_mem_singleton.2 hfield⟩
      | directed d hword hfield =>
        exact ⟨.directed d hword, fun _ => by
          simp [hfield, Value.isWritable_of_asText? hword]⟩

theorem sortStep_eq_ok {texts : List String} :
    sortStep index items = .ok texts ↔ PlacesKey index items texts := by
  constructor
  · intro h
    rcases sortsBy_or_raises items with rfl | ⟨key, hkey⟩ | ⟨fault, hfault⟩
    · obtain rfl : [] = texts := Except.ok.inj h
      exact .nothing
    · rw [sortStep, sortKey_of_sortsBy hkey] at h
      obtain rfl := Except.ok.inj h
      cases index with
      | zero => exact .first hkey
      | succ index => exact .later hkey
    · simp [sortStep, sortKey_of_raises hfault, Except.map] at h
  · rintro (_ | hkey | hkey)
    · rfl
    · rw [sortStep, sortKey_of_sortsBy hkey]
      rfl
    · rw [sortStep, sortKey_of_sortsBy hkey]
      rfl

theorem sortStep_eq_error : sortStep index items = .error fault ↔ SortRaises items fault := by
  constructor
  · intro h
    rcases sortsBy_or_raises items with rfl | ⟨key, hkey⟩ | ⟨other, hother⟩
    · simp [sortStep, sortKey, Except.map] at h
    · simp [sortStep, sortKey_of_sortsBy hkey, Except.map] at h
    · rw [sortStep, sortKey_of_raises hother] at h
      exact Except.error.inj h ▸ hother
  · intro h
    rw [sortStep, sortKey_of_raises h]
    rfl

theorem exists_sortStep_iff (index : Nat) :
    (∃ texts, sortStep index items = .ok texts) ↔ SortCompiles items := by
  rw [sortCompiles_iff]
  constructor
  · rintro ⟨texts, h⟩
    rcases sortStep_eq_ok.1 h with _ | hkey | hkey
    · exact .inl rfl
    · exact .inr ⟨_, hkey⟩
    · exact .inr ⟨_, hkey⟩
  · rintro (rfl | ⟨key, hkey⟩)
    · exact ⟨[], rfl⟩
    · rw [sortStep, sortKey_of_sortsBy hkey]
      exact ⟨_, rfl⟩

/-! ## The whole sort -/

theorem exists_passFrom_sortStep_iff (index : Nat) :
    (∃ fragments, passFrom sortStep index clauses = .ok fragments) ↔
      ∀ clause ∈ clauses, SortCompiles (clauseItems clause) := by
  induction clauses generalizing index with
  | nil => simp [passFrom]
  | cons clause clauses ih =>
    rw [List.forall_mem_cons, ← exists_sortStep_iff index, ← ih (index + 1)]
    simp only [passFrom_cons_eq_ok]
    constructor
    · rintro ⟨fragments, first, rest, hfirst, hrest, -⟩
      exact ⟨⟨first, hfirst⟩, ⟨rest, hrest⟩⟩
    · rintro ⟨⟨first, hfirst⟩, ⟨rest, hrest⟩⟩
      exact ⟨first ++ rest, first, rest, hfirst, hrest, rfl⟩

/-- A pass writes what each clause places at its position. -/
theorem passFrom_sortStep_eq_ok :
    passFrom sortStep index clauses = .ok fragments ↔
      ∃ parts, List.Forall₂ (fun place part => PlacesKey place.2 (clauseItems place.1) part)
        (clauses.zipIdx index) parts ∧ fragments = parts.flatten := by
  induction clauses generalizing index fragments with
  | nil => simp [passFrom, eq_comm]
  | cons clause clauses ih =>
    simp only [passFrom_cons_eq_ok, ih, sortStep_eq_ok, List.zipIdx_cons,
      List.forall₂_cons_left_iff]
    constructor
    · rintro ⟨first, _, hfirst, ⟨parts, hparts, rfl⟩, rfl⟩
      exact ⟨first :: parts, ⟨first, parts, hfirst, hparts, rfl⟩, rfl⟩
    · rintro ⟨_, ⟨first, parts, hfirst, hparts, rfl⟩, rfl⟩
      exact ⟨first, parts.flatten, hfirst, ⟨parts, hparts, rfl⟩, rfl⟩

/-- The error of a sort is what is raised for a clause behind ones that give keys. -/
theorem sortRaises_of_passFrom {e : BuildError} (h : passFrom sortStep 0 clauses = .error e) :
    ∃ i clause fault, clauses[i]? = some clause ∧ SortRaises (clauseItems clause) fault ∧
      (∀ j < i, ∀ earlier, clauses[j]? = some earlier → SortCompiles (clauseItems earlier)) ∧
      e = ⟨fault, clause, some i⟩ := by
  obtain ⟨i, clause, fault, ⟨hclause, hfault, hbefore⟩, rfl⟩ := passFrom_eq_error.1 h
  refine ⟨i, clause, fault, hclause, sortStep_eq_error.1 hfault, ?_, by rw [Nat.zero_add]⟩
  intro j hj earlier hearlier
  exact (exists_sortStep_iff _).1 (hbefore j hj earlier hearlier)

theorem sortRaises_of_compileSort {sort : Value} {e : BuildError}
    (h : compileSort sort = .error e) :
    ∃ i clause fault, (normalizeClauses sort)[i]? = some clause ∧
      SortRaises (clauseItems clause) fault ∧
      (∀ j < i, ∀ earlier, (normalizeClauses sort)[j]? = some earlier →
        SortCompiles (clauseItems earlier)) ∧ e = ⟨fault, clause, some i⟩ := by
  rw [compileSort_eq_pass] at h
  exact sortRaises_of_passFrom h

/-- A pass over clauses that do not all give keys fails at the first of them that does not. -/
theorem passFrom_sortStep_of_not_compiles
    (h : ∃ clause ∈ clauses, ¬SortCompiles (clauseItems clause)) :
    ∃ i clause fault, clauses[i]? = some clause ∧ SortRaises (clauseItems clause) fault ∧
      (∀ j < i, ∀ earlier, clauses[j]? = some earlier → SortCompiles (clauseItems earlier)) ∧
      passFrom sortStep 0 clauses = .error ⟨fault, clause, some i⟩ := by
  cases hpass : passFrom sortStep 0 clauses with
  | ok fragments =>
    obtain ⟨clause, hclause, hnot⟩ := h
    exact absurd ((exists_passFrom_sortStep_iff 0).1 ⟨fragments, hpass⟩ clause hclause) hnot
  | error e =>
    obtain ⟨i, clause, fault, hclause, hfault, hbefore, rfl⟩ := sortRaises_of_passFrom hpass
    exact ⟨i, clause, fault, hclause, hfault, hbefore, rfl⟩

/-! ## Clauses without items -/

theorem compileSort_many (clauses : List Value) :
    compileSort (many clauses) = passFrom sortStep 0 clauses :=
  compileSort_eq_pass (many clauses)

/-- At the later positions all keys are placed alike. -/
theorem passFrom_sortStep_later {other : Nat} (hindex : 0 < index) (hother : 0 < other) :
    passFrom sortStep index clauses = .ok fragments ↔
      passFrom sortStep other clauses = .ok fragments := by
  -- Positions show in errors only, so the view of errors leaves them out.
  have halike : (passFrom sortStep index clauses).mapError BuildError.fault =
      (passFrom sortStep other clauses).mapError BuildError.fault := by
    apply passFrom_alike_self
    intro i clause _
    have hplaced : placed (index + i) = placed (other + i) := by
      funext key
      cases key with
      | none => rfl
      | some key => simp [placed, Nat.ne_of_gt hindex, Nat.ne_of_gt hother]
    rw [sortStep, sortStep, hplaced]
  rw [← mapError_eq_ok (f := BuildError.fault), halike, mapError_eq_ok]

theorem passFrom_sortStep_cons_empty (hitems : clauseItems clause = []) :
    passFrom sortStep index (clause :: clauses) = passFrom sortStep (index + 1) clauses := by
  have hstep : sortStep index (clauseItems clause) = .ok [] := by rw [hitems]; rfl
  rw [passFrom, hstep]
  cases passFrom sortStep (index + 1) clauses <;> rfl

theorem passFrom_sortStep_append_empty {leading : List Value}
    (hitems : ∀ clause ∈ leading, clauseItems clause = []) :
    passFrom sortStep index (leading ++ clauses) =
      passFrom sortStep (index + leading.length) clauses := by
  induction leading generalizing index with
  | nil => rfl
  | cons clause leading ih =>
    rw [List.forall_mem_cons] at hitems
    rw [List.cons_append, passFrom_sortStep_cons_empty hitems.1, ih hitems.2, List.length_cons,
      show index + 1 + leading.length = index + (leading.length + 1) by omega]

/-- A clause without items may be taken out wherever it does not stand first. -/
theorem compileSort_many_erase {before after : List Value} (hitems : clauseItems clause = [])
    (hbefore : before ≠ []) :
    compileSort (many (before ++ clause :: after)) = .ok fragments ↔
      compileSort (many (before ++ after)) = .ok fragments := by
  have hpos : 0 < 0 + before.length := by
    rw [Nat.zero_add]
    exact List.length_pos_iff.2 hbefore
  rw [compileSort_many, compileSort_many, passFrom_append_eq_ok, passFrom_append_eq_ok,
    passFrom_sortStep_cons_empty hitems]
  simp only [passFrom_sortStep_later (Nat.succ_pos (0 + before.length)) hpos]

/-- Behind other clauses, a pass that starts with a key has one separator more. -/
theorem passFrom_sortStep_behind (hindex : 0 < index) (hitems : clauseItems clause ≠ []) :
    passFrom sortStep index (clause :: clauses) = .ok fragments ↔
      ∃ rest, passFrom sortStep 0 (clause :: clauses) = .ok rest ∧ fragments = "^" :: rest := by
  obtain ⟨index, rfl⟩ : ∃ i, index = i + 1 := ⟨index - 1, by omega⟩
  simp only [passFrom_cons_eq_ok, sortStep_eq_ok,
    passFrom_sortStep_later (Nat.succ_pos (index + 1)) (Nat.succ_pos 0)]
  constructor
  · rintro ⟨first, rest, hfirst, hrest, rfl⟩
    generalize clauseItems clause = items at hfirst hitems
    cases hfirst with
    | nothing => exact absurd rfl hitems
    | later hkey => exact ⟨_, ⟨_, rest, .first hkey, hrest, rfl⟩, rfl⟩
  · rintro ⟨_, ⟨first, rest, hfirst, hrest, rfl⟩, rfl⟩
    generalize clauseItems clause = items at hfirst hitems
    cases hfirst with
    | nothing => exact absurd rfl hitems
    | first hkey => exact ⟨_, rest, .later hkey, hrest, rfl⟩

def hasNoItems (clause : Value) : Bool := (clauseItems clause).isEmpty

/-- The clauses without items at the front leave one separator, if a key follows them. -/
theorem compileSort_many_dropWhile :
    compileSort (many clauses) = .ok fragments ↔
      ∃ rest, compileSort (many (clauses.dropWhile hasNoItems)) = .ok rest ∧
        fragments = if clauses.takeWhile hasNoItems ≠ [] ∧ clauses.dropWhile hasNoItems ≠ []
          then "^" :: rest else rest := by
  have hleading : ∀ clause ∈ clauses.takeWhile hasNoItems, clauseItems clause = [] := by
    intro clause hclause
    exact List.isEmpty_iff.1 (List.all_eq_true.1 List.all_takeWhile clause hclause)
  have hsplit : passFrom sortStep 0 clauses =
      passFrom sortStep (clauses.takeWhile hasNoItems).length (clauses.dropWhile hasNoItems) := by
    conv_lhs => rw [← List.takeWhile_append_dropWhile (p := hasNoItems) (l := clauses)]
    rw [passFrom_sortStep_append_empty hleading, Nat.zero_add]
  rw [compileSort_many, compileSort_many, hsplit]
  cases hdrop : clauses.dropWhile hasNoItems with
  | nil =>
    have hnil : ∀ index, passFrom sortStep index [] = .ok [] := fun _ => rfl
    simp only [hnil, ne_eq, not_true_eq_false, and_false, if_false]
    exact ⟨fun h => ⟨_, h, rfl⟩, fun ⟨_, h, hrest⟩ => hrest ▸ h⟩
  | cons clause rest =>
    by_cases hnone : clauses.takeWhile hasNoItems = []
    · simp [hnone]
    · have hitems : clauseItems clause ≠ [] := by
        have hhead := List.head?_dropWhile_not hasNoItems clauses
        rw [hdrop] at hhead
        simpa [hasNoItems] using hhead
      rw [passFrom_sortStep_behind (List.length_pos_iff.2 hnone) hitems]
      simp [hnone]

/-- Without empty clauses a separator stands between neighbouring keys, and nowhere else. -/
theorem exists_keys_of_passFrom (hitems : ∀ clause ∈ clauses, clauseItems clause ≠ [])
    (h : passFrom sortStep 0 clauses = .ok fragments) :
    ∃ keys, List.Forall₂ SortsBy (clauses.map clauseItems) keys ∧
      fragments = keys.intersperse "^" := by
  induction clauses generalizing fragments with
  | nil => exact ⟨[], .nil, (Except.ok.inj h).symm⟩
  | cons clause clauses ih =>
    rw [List.forall_mem_cons] at hitems
    obtain ⟨first, rest, hfirst, hrest, rfl⟩ := passFrom_cons_eq_ok.1 h
    obtain ⟨key, hkey, rfl⟩ : ∃ key, SortsBy (clauseItems clause) key ∧ first = [key] := by
      rcases sortCompiles_iff.1 ((exists_sortStep_iff 0).1 ⟨first, hfirst⟩) with hnone | ⟨key, hkey⟩
      · exact absurd hnone hitems.1
      · rw [sortStep, sortKey_of_sortsBy hkey] at hfirst
        exact ⟨key, hkey, (Except.ok.inj hfirst).symm⟩
    cases clauses with
    | nil =>
      obtain rfl : [] = rest := Except.ok.inj hrest
      exact ⟨[key], .cons hkey .nil, rfl⟩
    | cons next clauses =>
      -- The rest is passed behind the first key; brought to the front, it falls under `ih`.
      have hnext : clauseItems next ≠ [] := hitems.2 next List.mem_cons_self
      obtain ⟨later, hlater, rfl⟩ := (passFrom_sortStep_behind (by omega) hnext).1 hrest
      obtain ⟨keys, hkeys, rfl⟩ := ih hitems.2 hlater
      cases hkeys with
      | @cons _ nextKey _ keys hnextKey hkeys =>
        exact ⟨key :: nextKey :: keys, .cons hkey (.cons hnextKey hkeys), rfl⟩

end CaretQuery
