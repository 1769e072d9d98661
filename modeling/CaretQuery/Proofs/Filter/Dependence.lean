import CaretQuery.Proofs.ClausePass
import CaretQuery.Proofs.Operator.Merging

/-! # What a filter needs of an operator table

A filter looks up the texts that stand second in its clauses of two or three
items, and of an operator that it finds it uses the token and whether a value
is required. The name, which a message may quote, is the text that was looked
up. So nothing else in a table shows in the result.
-/
namespace CaretQuery

/-- The text that names an operator in a clause with the given items. -/
def namedIn : List Value → Option String
  | [_, name] => name.asText?
  | [_, name, _] => name.asText?
  | _ => none

/-- The texts that name operators in a list of clauses. -/
def operatorNames (clauses : List Value) : List String :=
  clauses.filterMap fun clause => namedIn (clauseItems clause)

/-- What a query shows of an operator. -/
def Operator.encoding (op : Operator) : String × Bool := (op.token, op.requiresValue)

def Operator.undescribed (op : Operator) : Operator := { op with description := none }

@[simp] theorem Operator.name_undescribed (op : Operator) : op.undescribed.name = op.name := rfl

@[simp] theorem Operator.encoding_undescribed (op : Operator) :
    op.undescribed.encoding = op.encoding := rfl

/-- Under the name both tables have nothing, or operators with one token and one requirement. -/
def OperatorTable.AgreeOn (s t : OperatorTable) (name : String) : Prop :=
  (s.find? name).map Operator.encoding = (t.find? name).map Operator.encoding

/-- All that is reported of an error: what it says, and the clause that it quotes. -/
def BuildError.report (e : BuildError) : (String × String × Option Nat) × Value :=
  (e.notice, e.clause)

namespace OperatorTable

variable {s t : OperatorTable}

theorem named?_of_agreeOn {name : Value} (h : ∀ text, name.asText? = some text → AgreeOn s t text) :
    (s.named? name = none ∧ t.named? name = none) ∨
      ∃ op other, s.named? name = some op ∧ t.named? name = some other ∧
        op.name = other.name ∧ op.encoding = other.encoding := by
  cases htext : name.asText? with
  | none => exact .inl ⟨by simp [named?, htext], by simp [named?, htext]⟩
  | some text =>
    have hagree := h text htext
    rw [AgreeOn] at hagree
    simp only [named?, htext, Option.bind_some]
    cases hs : s.find? text with
    | none =>
      rw [hs, Option.map_none, eq_comm, Option.map_eq_none_iff] at hagree
      exact .inl ⟨rfl, hagree⟩
    | some op =>
      rw [hs, Option.map_some, eq_comm, Option.map_eq_some_iff] at hagree
      obtain ⟨other, ht, hencoding⟩ := hagree
      have hname : op.name = other.name :=
        (find?_eq_some_iff.1 hs).2.trans (find?_eq_some_iff.1 ht).2.symm
      exact .inr ⟨op, other, rfl, ht, hname, hencoding.symm⟩

/-- Operators of other names do not change what is found. -/
theorem agreeOn_override {name : String} (h : name ∉ t.names) : AgreeOn (s.override t) s name := by
  rw [AgreeOn, find?_override, find?_eq_none_iff.2 h, Option.none_or]

theorem exists_find?_of_perm
    (h : (s.rows.map Operator.undescribed).Perm (t.rows.map Operator.undescribed))
    {name : String} {op : Operator} (hop : s.find? name = some op) :
    ∃ other, t.find? name = some other ∧ op.encoding = other.encoding := by
  obtain ⟨hmem, rfl⟩ := find?_eq_some_iff.1 hop
  obtain ⟨other, hother, hsame⟩ := List.mem_map.1 (h.subset (List.mem_map_of_mem hmem))
  have hname : other.name = op.name := by simpa using congrArg Operator.name hsame
  have hencoding : other.encoding = op.encoding := by simpa using congrArg Operator.encoding hsame
  exact ⟨other, find?_eq_some_iff.2 ⟨hother, hname⟩, hencoding.symm⟩

/-- Neither the order of the rows nor their descriptions change what is found. -/
theorem agreeOn_of_perm
    (h : (s.rows.map Operator.undescribed).Perm (t.rows.map Operator.undescribed))
    (name : String) : AgreeOn s t name := by
  rw [AgreeOn]
  cases hs : s.find? name with
  | some op =>
    obtain ⟨other, hother, hencoding⟩ := exists_find?_of_perm h hs
    rw [hother, Option.map_some, Option.map_some, hencoding]
  | none =>
    cases ht : t.find? name with
    | none => rfl
    | some op =>
      obtain ⟨other, hother, -⟩ := exists_find?_of_perm h.symm ht
      simp [hs] at hother

end OperatorTable

open OperatorTable (AgreeOn)

variable {s t : OperatorTable} {filter : Value}

/-- A fault holds the operator, but only its name is reported. -/
theorem report_missingValue {op other : Operator} (h : op.name = other.name) (field clause : Value)
    (index : Option Nat) :
    BuildError.report ⟨(Fault.missingValue op field).raised, clause, index⟩ =
      BuildError.report ⟨(Fault.missingValue other field).raised, clause, index⟩ := by
  have hmessage (op : Operator) : (Fault.missingValue op field).message =
      "Operator " ++ Text.quoted op.name ++ " requires a value (field " ++ field.quoted ++ ")" :=
    rfl
  cases hfield : field.isWritable with
  | false =>
    have hraised (op : Operator) : (Fault.missingValue op field).raised = .longInteger :=
      Fault.raised_of_not_writable (List.mem_singleton_self field) hfield
    rw [hraised, hraised]
  | true =>
    have hraised (op : Operator) : (Fault.missingValue op field).raised = .missingValue op field :=
      Fault.raised_of_writable (List.forall_mem_singleton.2 hfield)
    rw [hraised, hraised, BuildError.report, BuildError.report, BuildError.notice,
      BuildError.notice, BuildError.message, BuildError.message, hmessage, hmessage, h]
    rfl

theorem filterFragment_report {items : List Value}
    (h : ∀ name, namedIn items = some name → AgreeOn s t name) (last : Bool) (clause : Value)
    (index : Option Nat) :
    (filterFragment s last items).mapError (fun fault => BuildError.report ⟨fault, clause, index⟩) =
      (filterFragment t last items).mapError
        fun fault => BuildError.report ⟨fault, clause, index⟩ := by
  match items with
  | [] => rfl
  | [word] => rfl
  | [field, name] =>
    have hagree : ∀ text, name.asText? = some text → AgreeOn s t text := h
    rcases OperatorTable.named?_of_agreeOn hagree with
      ⟨hs, ht⟩ | ⟨op, other, hs, ht, hname, hencoding⟩
    · rw [filterFragment, filterFragment, hs, ht]
    · obtain ⟨htoken, hvalue⟩ := Prod.mk.inj hencoding
      rw [filterFragment, filterFragment, hs, ht]
      simp only [htoken, hvalue]
      cases other.requiresValue with
      | false => rfl
      | true => exact congrArg Except.error (report_missingValue hname field clause index)
  | [field, name, value] =>
    have hagree : ∀ text, name.asText? = some text → AgreeOn s t text := h
    rcases OperatorTable.named?_of_agreeOn hagree with
      ⟨hs, ht⟩ | ⟨op, other, hs, ht, hname, hencoding⟩
    · rw [filterFragment, filterFragment, hs, ht]
    · obtain ⟨htoken, -⟩ := Prod.mk.inj hencoding
      rw [filterFragment, filterFragment, hs, ht]
      simp only [htoken]
  | _ :: _ :: _ :: _ :: _ => rfl

theorem compileFilter_report
    (h : ∀ name ∈ operatorNames (normalizeClauses filter), AgreeOn s t name) :
    (compileFilter s filter).mapError BuildError.report =
      (compileFilter t filter).mapError BuildError.report := by
  rw [compileFilter_eq_pass, compileFilter_eq_pass, mapError_map, mapError_map]
  congr 1
  apply passFrom_alike_self
  intro i clause hclause
  have hmem : clause ∈ normalizeClauses filter := List.mem_of_getElem? hclause
  rw [filterStep, filterStep, mapError_map, mapError_map, filterFragment_report]
  intro name hname
  exact h name (List.mem_filterMap.2 ⟨clause, hmem, hname⟩)

/-- A filter uses a table only through the operators that it names. Tables that
agree on these names give the same fragments or the same error; so do a table
and its merge with operators that the filter does not name, and two tables that
differ in the order and the descriptions of their rows. -/
theorem compileFilter_uses_named (filter : Value) :
    (∀ s t : OperatorTable,
      (∀ name ∈ operatorNames (normalizeClauses filter), AgreeOn s t name) →
      (compileFilter s filter).mapError BuildError.report =
        (compileFilter t filter).mapError BuildError.report) ∧
    (∀ (t : OperatorTable) (ops : List Operator), (ops.map Operator.name).Nodup →
      (∀ op ∈ ops, op.name ∉ operatorNames (normalizeClauses filter)) →
      ∃ merged, t.merged ops = .ok merged ∧
        (compileFilter merged filter).mapError BuildError.report =
          (compileFilter t filter).mapError BuildError.report) ∧
    ∀ s t : OperatorTable,
      (s.rows.map Operator.undescribed).Perm (t.rows.map Operator.undescribed) →
      (compileFilter s filter).mapError BuildError.report =
        (compileFilter t filter).mapError BuildError.report := by
  refine ⟨fun s t h => compileFilter_report h, ?_, fun s t h =>
    compileFilter_report fun name _ => OperatorTable.agreeOn_of_perm h name⟩
  intro t ops hnodup hnames
  let incoming : OperatorTable := ⟨ops, hnodup⟩
  refine ⟨t.override incoming, OperatorTable.merged_rows t incoming, compileFilter_report ?_⟩
  intro name hname
  apply OperatorTable.agreeOn_override
  intro hmem
  obtain ⟨op, hop, rfl⟩ := OperatorTable.mem_names.1 hmem
  exact hnames op hop hname

/-- A missing value is reported alike by the built-in table, by one of a single row with
another description, and by a merge with an operator that is not named. -/
theorem compileFilter_uses_named_missing_value :
    let filter : Value := .list [.tuple [.str "state", .str "-eq"]]
    let short : OperatorTable := ⟨[⟨"-eq", "=", true, some "equals"⟩], List.nodup_singleton _⟩
    let added : List Operator := [⟨"-has", "CONTAINS", true, none⟩]
    let missing := BuildError.report ⟨.missingValue ⟨"-eq", "=", true, none⟩ (.str "state"),
      .tuple [.str "state", .str "-eq"], some 0⟩
    (∀ name ∈ operatorNames (normalizeClauses filter), AgreeOn .builtin short name) ∧
      (∀ op ∈ added, op.name ∉ operatorNames (normalizeClauses filter)) ∧
      (compileFilter .builtin filter).mapError BuildError.report = .error missing ∧
      ∃ merged, short.merged added = .ok merged ∧
        (compileFilter merged filter).mapError BuildError.report = .error missing := by
  intro filter short added missing
  have hnames : operatorNames (normalizeClauses filter) = ["-eq"] := rfl
  have hagree : ∀ name ∈ operatorNames (normalizeClauses filter),
      AgreeOn .builtin short name := by
    rw [hnames]
    rintro _ (_ | ⟨_, ⟨⟩⟩)
    rfl
  have hadded : ∀ op ∈ added, op.name ∉ operatorNames (normalizeClauses filter) := by
    rw [hnames]
    decide
  have hshort : (compileFilter short filter).mapError BuildError.report = .error missing := rfl
  obtain ⟨hany, hmerge, -⟩ := compileFilter_uses_named filter
  obtain ⟨merged, hmerged, hsame⟩ := hmerge short added (List.nodup_singleton _) hadded
  exact ⟨hagree, hadded, (hany _ _ hagree).trans hshort, merged, hmerged, hsame.trans hshort⟩

end CaretQuery
