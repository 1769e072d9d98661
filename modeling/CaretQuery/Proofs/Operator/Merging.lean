import CaretQuery.Proofs.Naming

/-! # Merging operator tables

A table is its names in order and what it finds under each of them. Merging
leaves the names of the base where they are, puts the other names behind them,
and finds the incoming operator wherever there is one. All laws of merging
follow from these two facts.
-/
namespace CaretQuery.OperatorTable

variable {s t : OperatorTable} {op : Operator} {name : String}

/-! ## Names and look-up -/

theorem find?_of_mem (h : op ∈ t.rows) : t.find? op.name = some op :=
  find?_eq_some_iff.2 ⟨h, rfl⟩

theorem mem_names : name ∈ t.names ↔ ∃ op ∈ t.rows, op.name = name := List.mem_map

theorem find?_eq_none_iff : t.find? name = none ↔ name ∉ t.names := by
  rw [Option.eq_none_iff_forall_ne_some, mem_names]
  constructor
  · rintro h ⟨op, hop, rfl⟩
    exact h op (find?_of_mem hop)
  · intro h op hop
    exact h ⟨op, find?_eq_some_iff.1 hop⟩

/-- What is found under a name has that name, and something is found under every name. -/
theorem find?_map_name (t : OperatorTable) (name : String) :
    (t.find? name).map Operator.name = if name ∈ t.names then some name else none := by
  cases h : t.find? name with
  | none => simp [find?_eq_none_iff.1 h]
  | some op =>
    obtain ⟨hop, rfl⟩ := find?_eq_some_iff.1 h
    have hname : op.name ∈ t.names := mem_names.2 ⟨op, hop, rfl⟩
    simp [hname]

theorem filterMap_find?_names (t : OperatorTable) : t.names.filterMap t.find? = t.rows := by
  calc
    t.names.filterMap t.find? = t.rows.filterMap (t.find? ∘ Operator.name) := List.filterMap_map
    _ = t.rows.filterMap some := List.filterMap_congr fun _ hop => find?_of_mem hop
    _ = t.rows := List.filterMap_some

/-- Tables with the same names in the same order that find the same are equal. -/
theorem ext_find? (hnames : s.names = t.names) (hfind : ∀ name, s.find? name = t.find? name) :
    s = t := by
  apply ext
  rw [← filterMap_find?_names s, ← filterMap_find?_names t, hnames, funext hfind]

/-! ## Putting one operator -/

theorem names_put (t : OperatorTable) (op : Operator) :
    (t.put op).names = if op.name ∈ t.names then t.names else t.names ++ [op.name] := by
  unfold put
  split
  · exact names_replaceIn op t.rows
  · simp [append, names]

theorem mem_rows_put {row : Operator} :
    row ∈ (t.put op).rows ↔ row = op ∨ row ∈ t.rows ∧ row.name ≠ op.name := by
  unfold put
  split
  next h =>
    obtain ⟨other, hother, hname⟩ := mem_names.1 h
    simp only [replaceIn, List.mem_map]
    constructor
    · rintro ⟨before, hbefore, rfl⟩
      by_cases hsame : before.name = op.name
      · simp [hsame]
      · simp [hsame, hbefore]
    · rintro (rfl | ⟨hrow, hne⟩)
      · exact ⟨other, hother, by simp [hname]⟩
      · exact ⟨row, hrow, by simp [hne]⟩
  next h =>
    have hne : row ∈ t.rows → row.name ≠ op.name := fun hrow heq =>
      h (mem_names.2 ⟨row, hrow, heq⟩)
    simp only [append, List.mem_append, List.mem_singleton]
    tauto

theorem find?_put (t : OperatorTable) (op : Operator) (name : String) :
    (t.put op).find? name = if op.name = name then some op else t.find? name := by
  apply Option.ext
  intro row
  rw [find?_eq_some_iff, mem_rows_put]
  by_cases h : op.name = name
  · subst h
    simp only [if_true, Option.some.injEq]
    constructor
    · rintro ⟨rfl | ⟨-, hne⟩, hname⟩
      · rfl
      · exact absurd hname hne
    · rintro rfl
      exact ⟨.inl rfl, rfl⟩
  · rw [if_neg h, find?_eq_some_iff]
    constructor
    · rintro ⟨rfl | ⟨hrow, -⟩, hname⟩
      · exact absurd hname h
      · exact ⟨hrow, hname⟩
    · rintro ⟨hrow, rfl⟩
      exact ⟨.inr ⟨hrow, fun heq => h heq.symm⟩, rfl⟩

/-! ## Putting a table -/

theorem names_foldl_put (ops : List Operator) (t : OperatorTable)
    (h : (ops.map Operator.name).Nodup) :
    (ops.foldl put t).names = t.names ++ (ops.map Operator.name).filter (· ∉ t.names) := by
  induction ops generalizing t with
  | nil => simp
  | cons op ops ih =>
    rw [List.map_cons, List.nodup_cons] at h
    rw [List.foldl_cons, ih _ h.2, names_put, List.map_cons]
    by_cases hop : op.name ∈ t.names
    · simp [hop]
    · -- The name of the operator is new, and none of those that follow it.
      have hrest : (ops.map Operator.name).filter (· ∉ t.names ++ [op.name]) =
          (ops.map Operator.name).filter (· ∉ t.names) := by
        apply List.filter_congr
        intro name hname
        have hne : name ≠ op.name := fun heq => h.1 (heq ▸ hname)
        simp [hne]
      rw [if_neg hop, hrest, List.filter_cons_of_pos (by simpa using hop), List.append_assoc]
      rfl

theorem find?_foldl_put (ops : List Operator) (t : OperatorTable)
    (h : (ops.map Operator.name).Nodup) (name : String) :
    (ops.foldl put t).find? name = (ops.find? fun op => op.name == name).or (t.find? name) := by
  induction ops generalizing t with
  | nil => simp
  | cons op ops ih =>
    rw [List.map_cons, List.nodup_cons] at h
    rw [List.foldl_cons, ih _ h.2, find?_put, List.find?_cons]
    by_cases hop : op.name = name
    · -- Nothing behind the operator takes its place.
      have hrest : ops.find? (fun op => op.name == name) = none := by
        rw [List.find?_eq_none]
        intro other hother heq
        exact h.1 (List.mem_map.2 ⟨other, hother, (beq_iff_eq.1 heq).trans hop.symm⟩)
      simp [hop, hrest]
    · have hbeq : (op.name == name) = false := by simpa using hop
      rw [if_neg hop, hbeq]

theorem names_override (base incoming : OperatorTable) :
    (base.override incoming).names =
      base.names ++ incoming.names.filter (· ∉ base.names) :=
  names_foldl_put incoming.rows base incoming.nodup

theorem find?_override (base incoming : OperatorTable) (name : String) :
    (base.override incoming).find? name = (incoming.find? name).or (base.find? name) :=
  find?_foldl_put incoming.rows base incoming.nodup name

/-- A merged table has the rows of the base, each replaced by the incoming
operator of its name, and then the incoming rows with new names. -/
theorem rows_override (base incoming : OperatorTable) :
    (base.override incoming).rows =
      base.rows.map (fun row => (incoming.find? row.name).getD row) ++
        incoming.rows.filter (·.name ∉ base.names) := by
  have hbase : ∀ row ∈ base.rows, (base.override incoming).find? row.name =
      some ((incoming.find? row.name).getD row) := by
    intro row hrow
    rw [find?_override, find?_of_mem hrow]
    cases incoming.find? row.name <;> rfl
  have hincoming : ∀ row ∈ incoming.rows.filter (·.name ∉ base.names),
      (base.override incoming).find? row.name = some row := by
    intro row hrow
    rw [find?_override, find?_of_mem (List.mem_filter.1 hrow).1, Option.some_or]
  have hnames : incoming.names.filter (· ∉ base.names) =
      (incoming.rows.filter (·.name ∉ base.names)).map Operator.name := List.filter_map
  rw [← filterMap_find?_names (base.override incoming), names_override, List.filterMap_append,
    hnames]
  congr 1
  · calc
      base.names.filterMap (base.override incoming).find? =
          base.rows.filterMap ((base.override incoming).find? ∘ Operator.name) :=
        List.filterMap_map
      _ = base.rows.filterMap fun row => some ((incoming.find? row.name).getD row) :=
        List.filterMap_congr hbase
      _ = base.rows.map fun row => (incoming.find? row.name).getD row :=
        congrFun List.filterMap_eq_map _
  · rw [List.filterMap_map]
    exact (List.filterMap_congr hincoming).trans List.filterMap_some

/-! ## Tables of their own rows -/

/-- Operators with new names are added without a fault. -/
theorem exists_extend_eq_ok (ops : List Operator) (t : OperatorTable)
    (h : ((t.rows ++ ops).map Operator.name).Nodup) :
    ∃ u, t.extend ops = .ok u ∧ u.rows = t.rows ++ ops := by
  induction ops generalizing t with
  | nil => exact ⟨t, rfl, by simp⟩
  | cons op ops ih =>
    have hop : op.name ∉ t.names := by
      rw [List.map_append, List.map_cons, List.nodup_append] at h
      exact fun hname => h.2.2 _ hname _ List.mem_cons_self rfl
    obtain ⟨u, hu, hrows⟩ := ih (t.append op hop) (by simpa [append] using h)
    refine ⟨u, ?_, by simpa [append] using hrows⟩
    rw [extend, dif_neg hop, hu]

/-- The rows of a table make up the table again. -/
theorem ofList_rows (t : OperatorTable) : ofList t.rows = .ok t := by
  obtain ⟨u, hu, hrows⟩ := exists_extend_eq_ok t.rows empty (by simpa [empty] using t.nodup)
  have htable : u = t := ext hrows
  rw [ofList, hu, htable]

theorem merged_rows (base incoming : OperatorTable) :
    base.merged incoming.rows = .ok (base.override incoming) := by
  rw [merged, ofList_rows]
  rfl

/-! ## Laws -/

theorem override_empty (t : OperatorTable) : t.override empty = t := rfl

theorem empty_override (t : OperatorTable) : empty.override t = t := by
  apply ext_find?
  · have hnames : empty.names = [] := rfl
    simp [names_override, hnames]
  · intro name
    have hfind : empty.find? name = none := rfl
    rw [find?_override, hfind, Option.or_none]

/-- Operators that are present already change nothing. -/
theorem override_of_subset (h : t.rows ⊆ s.rows) : s.override t = s := by
  apply ext_find?
  · rw [names_override, List.filter_eq_nil_iff.2, List.append_nil]
    intro name hname
    obtain ⟨op, hop, rfl⟩ := mem_names.1 hname
    simpa using mem_names.2 ⟨op, h hop, rfl⟩
  · intro name
    rw [find?_override]
    cases hfind : t.find? name with
    | none => rw [Option.none_or]
    | some op =>
      obtain ⟨hop, rfl⟩ := find?_eq_some_iff.1 hfind
      rw [Option.some_or, find?_of_mem (h hop)]

theorem override_self (t : OperatorTable) : t.override t = t :=
  override_of_subset fun _ => id

theorem rows_subset_override (s t : OperatorTable) : t.rows ⊆ (s.override t).rows := by
  intro op hop
  have hfind : (s.override t).find? op.name = some op := by
    rw [find?_override, find?_of_mem hop, Option.some_or]
  exact (find?_eq_some_iff.1 hfind).1

theorem override_override (s t : OperatorTable) : (s.override t).override t = s.override t :=
  override_of_subset (rows_subset_override s t)

theorem override_assoc (a b c : OperatorTable) :
    (a.override b).override c = a.override (b.override c) := by
  apply ext_find?
  · simp only [names_override, List.filter_append, List.filter_filter, List.append_assoc]
    congr 2
    apply List.filter_congr
    intro name _
    by_cases ha : name ∈ a.names <;> by_cases hb : name ∈ b.names <;> simp [ha, hb]
  · intro name
    simp only [find?_override, Option.or_assoc]

/-- Merging tables is a monoid of ordered overrides: it never fails, keeps the
order of the base with new names behind it, prefers the incoming operators, and
is associative, idempotent and neutral on the empty table. -/
theorem merged_ordered_monoid (a b c : OperatorTable) :
    (∃ m, a.merged b.rows = .ok m ∧
      m.names = a.names ++ b.names.filter (· ∉ a.names) ∧ m.names.Nodup ∧
      (∀ name, m.find? name = (b.find? name).or (a.find? name)) ∧
      (∀ name, (m.find? name).map Operator.name = if name ∈ m.names then some name else none) ∧
      m.merged b.rows = .ok m ∧
      ∃ n p, b.merged c.rows = .ok n ∧ m.merged c.rows = .ok p ∧ a.merged n.rows = .ok p) ∧
    a.merged empty.rows = .ok a ∧ empty.merged b.rows = .ok b ∧ a.merged a.rows = .ok a := by
  refine ⟨⟨a.override b, merged_rows a b, names_override a b, (a.override b).nodup,
    find?_override a b, find?_map_name _, ?_, ?_⟩, ?_, ?_, ?_⟩
  · rw [merged_rows, override_override]
  · refine ⟨b.override c, (a.override b).override c, merged_rows b c, merged_rows _ c, ?_⟩
    rw [merged_rows, override_assoc]
  · rw [merged_rows, override_empty]
  · rw [merged_rows, empty_override]
  · rw [merged_rows, override_self]

end CaretQuery.OperatorTable
