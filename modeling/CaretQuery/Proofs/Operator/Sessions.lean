import CaretQuery.Proofs.Expression.Flattening
import CaretQuery.Proofs.Operator.Records
import CaretQuery.Workspace

/-! # Sessions with operator tables

A table is made of records, or by a merge into a table that is bound. Whether
that fails depends on the records and on the names that are added, never on
the names of the base. What is bound to a name after a session was made by the
last step that made a table for the name, or was there before.
-/
namespace CaretQuery

variable {records : List Node} {ops : List Operator} {name : String}

namespace OperatorTable

variable {t base : OperatorTable}

/-! ## Tables of records -/

theorem ofRecords_eq_invalidEntry {index : Nat} {issues : List Issue} :
    ofRecords records = .error (.invalidEntry index issues) ↔
      FirstInvalid records index issues := by
  constructor
  · intro h
    rcases ofRecords_cases records with
      ⟨i, others, hinvalid, hrecords⟩ | ⟨read, op, -, -, hrecords⟩ | ⟨t, -, hrecords⟩
    · obtain ⟨rfl, rfl⟩ := TableError.invalidEntry.inj (Except.error.inj (hrecords.symm.trans h))
      exact hinvalid
    · cases hrecords.symm.trans h
    · cases hrecords.symm.trans h
  · intro h
    rw [ofRecords, readRecordsFrom_eq_error.2 ⟨index, issues, h, rfl⟩, Nat.zero_add]

theorem ofRecords_eq_duplicateName :
    ofRecords records = .error (.duplicateName name) ↔
      ∃ ops op, DescribeEach records ops ∧ FirstRepeat ops op ∧ op.name = name := by
  constructor
  · intro h
    rcases ofRecords_cases records with
      ⟨i, others, -, hrecords⟩ | ⟨read, op, hread, hrepeat, hrecords⟩ | ⟨t, -, hrecords⟩
    · cases hrecords.symm.trans h
    · have hname := TableError.duplicateName.inj (Except.error.inj (hrecords.symm.trans h))
      exact ⟨read, op, hread, hrepeat, hname⟩
    · cases hrecords.symm.trans h
  · rintro ⟨ops, op, hread, hrepeat, rfl⟩
    rw [ofRecords, readRecordsFrom_eq_ok.2 hread]
    simp [ofList_eq_error.2 ⟨op, hrepeat, rfl⟩, Except.mapError]

theorem exists_ofRecords_iff :
    (∃ t, ofRecords records = .ok t) ↔
      ∃ ops, DescribeEach records ops ∧ (ops.map Operator.name).Nodup := by
  simp only [ofRecords_eq_ok]
  constructor
  · rintro ⟨t, h⟩
    exact ⟨t.rows, h, t.nodup⟩
  · rintro ⟨ops, h, hnodup⟩
    exact ⟨⟨ops, hnodup⟩, h⟩

/-! ## Merges -/

/-- A merge that succeeds puts the table of the operators over the base. -/
theorem mergedWith_eq_ok :
    base.mergedWith ops = .ok t ↔
      ∃ incoming : OperatorTable, incoming.rows = ops ∧ t = base.override incoming := by
  simp only [mergedWith, merged, ← ofList_eq_ok]
  cases ofList ops <;> simp [Except.map, Except.mapError, eq_comm]

theorem mergedWith_rows (base incoming : OperatorTable) :
    base.mergedWith incoming.rows = .ok (base.override incoming) :=
  mergedWith_eq_ok.2 ⟨incoming, rfl, rfl⟩

theorem exists_mergedWith_iff :
    (∃ t, base.mergedWith ops = .ok t) ↔ (ops.map Operator.name).Nodup := by
  simp only [mergedWith_eq_ok]
  constructor
  · rintro ⟨t, incoming, rfl, -⟩
    exact incoming.nodup
  · intro hnodup
    exact ⟨_, ⟨ops, hnodup⟩, rfl, rfl⟩

theorem mergedWith_eq_error {e : TableError} :
    base.mergedWith ops = .error e ↔ ∃ op, FirstRepeat ops op ∧ e = .duplicateName op.name := by
  have hmerged : base.mergedWith ops = .error e ↔
      ∃ repeated, ofList ops = .error repeated ∧ e = .duplicateName repeated := by
    rw [mergedWith, merged]
    cases ofList ops <;> simp [Except.map, Except.mapError, eq_comm]
  simp only [hmerged, ofList_eq_error]
  constructor
  · rintro ⟨_, ⟨op, hrepeat, rfl⟩, rfl⟩
    exact ⟨op, hrepeat, rfl⟩
  · rintro ⟨op, hrepeat, rfl⟩
    exact ⟨op.name, ⟨op, hrepeat, rfl⟩, rfl⟩

/-- However often names of the base are overridden, only a list that repeats a name by itself
stops a series of merges. -/
theorem exists_foldlM_mergedWith {lists : List (List Operator)} (base : OperatorTable)
    (h : ∀ ops ∈ lists, (ops.map Operator.name).Nodup) :
    ∃ t, lists.foldlM mergedWith base = .ok t := by
  induction lists generalizing base with
  | nil => exact ⟨base, rfl⟩
  | cons ops lists ih =>
    rw [List.forall_mem_cons] at h
    obtain ⟨next, hnext⟩ := exists_mergedWith_iff.2 h.1
    obtain ⟨t, ht⟩ := ih next h.2
    exact ⟨t, by rw [List.foldlM_cons, hnext]; exact ht⟩

end OperatorTable

open OperatorTable

theorem mapM_read_eq_ok : records.mapM Record.read = .ok ops ↔ DescribeEach records ops := by
  induction records generalizing ops with
  | nil => cases ops <;> simp [DescribeEach, pure, Except.pure]
  | cons record records ih =>
    rw [List.mapM_cons]
    cases hread : Record.read record with
    | error issues => cases ops <;> simp [DescribeEach, bind, Except.bind, hread]
    | ok op =>
      cases hrest : records.mapM Record.read with
      | error issues =>
        cases ops <;> simp [DescribeEach, bind, Except.bind, ← ih, hread, hrest]
      | ok rest =>
        cases ops <;>
          simp [DescribeEach, bind, Except.bind, pure, Except.pure, ← ih, hread, hrest]

namespace Workspace

variable {w : Workspace} {s : Step} {t : OperatorTable} {steps : List Step}

/-! ## One step -/

/-- The steps that make a table of records, or by a merge. -/
inductive IsTabular : Step → Prop
  | records (name : String) (records : List Node) : IsTabular (.records name records)
  | merge (name base : String) (records : List Node) : IsTabular (.merge name base records)
  | mergeEach (name base : String) (records : List Node) : IsTabular (.mergeEach name base records)

/-- The table that a step makes of what is bound, and the name that it is bound to. The records of
a merge describe a table of their own. -/
inductive Makes (w : Workspace) : Step → String → OperatorTable → Prop
  | records {name : String} {records : List Node} {t : OperatorTable}
      (h : DescribeEach records t.rows) : Makes w (.records name records) name t
  | merge {name base : String} {records : List Node} {t incoming : OperatorTable}
      (hbase : w.find? base = some (.table t)) (h : DescribeEach records incoming.rows) :
      Makes w (.merge name base records) name (t.override incoming)
  | mergeEach {name base : String} {records : List Node} {t incoming : OperatorTable}
      (hbase : w.find? base = some (.table t)) (h : DescribeEach records incoming.rows) :
      Makes w (.mergeEach name base records) name (t.override incoming)

theorem table_eq_ok : w.table name = .ok t ↔ w.find? name = some (.table t) := by
  rw [table]
  cases w.find? name with
  | none => simp
  | some binding => cases binding <;> simp

theorem find?_bind (w : Workspace) (name other : String) (binding : Binding) :
    (w.bind name binding).find? other = if name = other then some binding else w.find? other := by
  by_cases h : name = other
  · simp [bind, find?, h]
  · have hkept : (w.bindings.filter fun entry => entry.1 != name).find?
        (fun entry => entry.1 == other) = w.bindings.find? fun entry => entry.1 == other := by
      rw [List.find?_filter]
      congr 1
      funext entry
      by_cases hentry : entry.1 = other <;> simp [hentry, Ne.symm h]
    simp only [bind, find?, List.find?_cons, beq_false_of_ne h, hkept, if_neg h]

theorem bindTable_eq_ok {made : Except TableError OperatorTable} {r : Reply × Workspace} :
    w.bindTable name made = .ok r ↔
      ∃ t, made = .ok t ∧ r = (.table t, w.bind name (.table t)) := by
  cases made <;> simp [bindTable, eq_comm]

/-- A step that makes a table binds it; one that makes none fails. -/
theorem step_eq_ok (hs : IsTabular s) {r : Reply × Workspace} :
    w.step s = .ok r ↔ ∃ name t, Makes w s name t ∧ r = (.table t, w.bind name (.table t)) := by
  cases hs with
  | records name records =>
    rw [step, bindTable_eq_ok]
    constructor
    · rintro ⟨t, ht, rfl⟩
      exact ⟨name, t, .records (ofRecords_eq_ok.1 ht), rfl⟩
    · rintro ⟨_, t, ⟨h⟩, rfl⟩
      exact ⟨t, ofRecords_eq_ok.2 h, rfl⟩
  | merge name base records =>
    simp only [step, mergedTable, bind_eq_ok, bindTable_eq_ok, table_eq_ok, ofRecords_eq_ok]
    constructor
    · rintro ⟨t, hbase, _, ⟨incoming, h, hmerged⟩, rfl⟩
      obtain rfl := Except.ok.inj ((mergedWith_rows t incoming).symm.trans hmerged)
      exact ⟨name, _, .merge hbase h, rfl⟩
    · rintro ⟨_, _, hmakes, rfl⟩
      cases hmakes with
      | @merge _ _ _ t incoming hbase h =>
        exact ⟨t, hbase, _, ⟨incoming, h, mergedWith_rows t incoming⟩, rfl⟩
  | mergeEach name base records =>
    simp only [step, bind_eq_ok, bindTable_eq_ok, table_eq_ok, mapError_eq_ok, mapM_read_eq_ok,
      mergedWith_eq_ok]
    constructor
    · rintro ⟨_, h, t, hbase, _, ⟨incoming, rfl, rfl⟩, rfl⟩
      exact ⟨name, _, .mergeEach hbase h, rfl⟩
    · rintro ⟨_, _, hmakes, rfl⟩
      cases hmakes with
      | @mergeEach _ _ _ t incoming hbase h =>
        exact ⟨_, h, t, hbase, _, ⟨incoming, rfl, rfl⟩, rfl⟩

/-- A tabular step makes a table and binds it, or makes none and fails. -/
theorem makes_or_fails (w : Workspace) (hs : IsTabular s) :
    (∃ name t, Makes w s name t ∧ w.step s = .ok (.table t, w.bind name (.table t))) ∨
      (∃ e, w.step s = .error e) ∧ ∀ name t, ¬Makes w s name t := by
  cases hstep : w.step s with
  | ok r =>
    obtain ⟨name, t, hmakes, rfl⟩ := (step_eq_ok hs).1 hstep
    exact .inl ⟨name, t, hmakes, rfl⟩
  | error e =>
    refine .inr ⟨⟨e, rfl⟩, fun name t hmakes => ?_⟩
    cases hstep.symm.trans ((step_eq_ok hs).2 ⟨name, t, hmakes, rfl⟩)

theorem after_of_makes (h : Makes w s name t) : w.after s = w.bind name (.table t) := by
  have hs : IsTabular s := by
    cases h with
    | records _ => exact .records _ _
    | merge _ _ => exact .merge _ _ _
    | mergeEach _ _ => exact .mergeEach _ _ _
  rw [after, (step_eq_ok hs).2 ⟨name, t, h, rfl⟩]

theorem after_of_error {e : Refusal} (h : w.step s = .error e) : w.after s = w := by
  rw [after, h]

/-- What is bound to a name after a step was there before, unless the step makes a table for it. -/
theorem find?_after (hs : IsTabular s) (h : ∀ t, ¬Makes w s name t) :
    (w.after s).find? name = w.find? name := by
  rcases makes_or_fails w hs with ⟨other, t, hmakes, -⟩ | ⟨⟨e, he⟩, -⟩
  · have hne : other ≠ name := fun heq => h t (heq ▸ hmakes)
    rw [after_of_makes hmakes, find?_bind, if_neg hne]
  · rw [after_of_error he]

/-! ## Sessions -/

def afterAll (w : Workspace) (steps : List Step) : Workspace := steps.foldl after w

theorem afterAll_append (w : Workspace) (before steps : List Step) :
    w.afterAll (before ++ steps) = (w.afterAll before).afterAll steps := List.foldl_append

/-- No step of a session makes a table for the name. -/
def Spares (w : Workspace) (steps : List Step) (name : String) : Prop :=
  ∀ before s rest t, steps = before ++ s :: rest → ¬Makes (w.afterAll before) s name t

/-- What a session leaves under a name: the table of the last step that makes one for it, or else
what has been there. -/
inductive Leaves (w : Workspace) (steps : List Step) (name : String) : Binding → Prop
  | made {before rest : List Step} {s : Step} {t : OperatorTable}
      (hsteps : steps = before ++ s :: rest) (hmakes : Makes (w.afterAll before) s name t)
      (hspares : Spares ((w.afterAll before).after s) rest name) : Leaves w steps name (.table t)
  | kept {binding : Binding} (hspares : Spares w steps name)
      (hbound : w.find? name = some binding) : Leaves w steps name binding

theorem spares_cons :
    Spares w (s :: steps) name ↔ (∀ t, ¬Makes w s name t) ∧ Spares (w.after s) steps name := by
  constructor
  · intro h
    exact ⟨fun t => h [] s steps t rfl,
      fun before next rest t hsteps => h (s :: before) next rest t (by rw [hsteps]; rfl)⟩
  · rintro ⟨hfirst, hrest⟩ before next rest t hsteps
    cases before with
    | nil =>
      obtain ⟨rfl, -⟩ := List.cons.inj hsteps
      exact hfirst t
    | cons first before =>
      obtain ⟨rfl, rfl⟩ := List.cons.inj hsteps
      exact hrest before next rest t rfl

theorem leaves_cons (hs : IsTabular s) {binding : Binding} :
    Leaves w (s :: steps) name binding ↔ Leaves (w.after s) steps name binding := by
  constructor
  · intro h
    cases h with
    | @made before rest next t hsteps hmakes hspares =>
      cases before with
      | nil =>
        obtain ⟨rfl, rfl⟩ := List.cons.inj hsteps
        refine .kept hspares ?_
        have hfirst : Makes w s name t := hmakes
        rw [after_of_makes hfirst, find?_bind, if_pos rfl]
      | cons first before =>
        obtain ⟨rfl, rfl⟩ := List.cons.inj hsteps
        exact .made rfl hmakes hspares
    | kept hspares hbound =>
      obtain ⟨hfirst, hrest⟩ := spares_cons.1 hspares
      exact .kept hrest ((find?_after hs hfirst).trans hbound)
  · intro h
    cases h with
    | @made before rest next t hsteps hmakes hspares =>
      have hsplit : s :: steps = (s :: before) ++ next :: rest := by rw [hsteps]; rfl
      exact .made hsplit hmakes hspares
    | kept hspares hbound =>
      by_cases hmade : ∃ t, Makes w s name t
      · obtain ⟨t, hmakes⟩ := hmade
        rw [after_of_makes hmakes, find?_bind, if_pos rfl] at hbound
        obtain rfl := Option.some.inj hbound
        exact .made (List.nil_append (s :: steps)).symm hmakes hspares
      · have hfirst : ∀ t, ¬Makes w s name t := fun t hmakes => hmade ⟨t, hmakes⟩
        exact .kept (spares_cons.2 ⟨hfirst, hspares⟩) ((find?_after hs hfirst).symm.trans hbound)

theorem find?_afterAll (hsteps : ∀ s ∈ steps, IsTabular s) {binding : Binding} :
    (w.afterAll steps).find? name = some binding ↔ Leaves w steps name binding := by
  induction steps generalizing w with
  | nil =>
    constructor
    · intro hbound
      exact .kept (fun before s rest t h => by simp at h) hbound
    · intro h
      cases h with
      | made h => simp at h
      | kept _ hbound => exact hbound
  | cons s steps ih =>
    rw [List.forall_mem_cons] at hsteps
    rw [leaves_cons hsteps.1, ← ih hsteps.2]
    rfl

/-- A step that fails can be left out of a session. -/
theorem afterAll_of_error {before rest : List Step} {e : Refusal}
    (h : (w.afterAll before).step s = .error e) :
    w.afterAll (before ++ s :: rest) = w.afterAll (before ++ rest) := by
  rw [afterAll_append, afterAll_append]
  exact congrArg (afterAll · rest) (after_of_error h)

end Workspace

open Workspace

/-- Tables come of records and merges alone. Records give the table of what
they describe; of the faults of a list the first invalid record comes before
every repeated name, and of the repeated names the first. A merge fails for the
names that are merged only, so a series of merges never fails for overriding.
In a session every tabular step makes its table or fails; one that fails could
as well be left out, a table stays until another is made for its name, and
under every name there is the table of the last step that made one for it, or
what was there before. -/
theorem tables_of_records_and_merges :
    (∀ records : List Node,
      (∀ t, ofRecords records = .ok t ↔ DescribeEach records t.rows) ∧
      ((∃ t, ofRecords records = .ok t) ↔
        ∃ ops, DescribeEach records ops ∧ (ops.map Operator.name).Nodup) ∧
      (∀ index issues, ofRecords records = .error (.invalidEntry index issues) ↔
        FirstInvalid records index issues) ∧
      ∀ name, ofRecords records = .error (.duplicateName name) ↔
        ∃ ops op, DescribeEach records ops ∧ FirstRepeat ops op ∧ op.name = name) ∧
    (∀ (base : OperatorTable) (ops : List Operator),
      ((∃ t, base.mergedWith ops = .ok t) ↔ (ops.map Operator.name).Nodup) ∧
      ∀ e, base.mergedWith ops = .error e ↔
        ∃ op, FirstRepeat ops op ∧ e = .duplicateName op.name) ∧
    (∀ (base : OperatorTable) (lists : List (List Operator)),
      (∀ ops ∈ lists, (ops.map Operator.name).Nodup) →
      ∃ t, lists.foldlM mergedWith base = .ok t) ∧
    ∀ (w : Workspace) (steps : List Step), (∀ s ∈ steps, IsTabular s) →
      (∀ before s rest, steps = before ++ s :: rest →
        (∃ name t, Makes (w.afterAll before) s name t ∧
          (w.afterAll before).step s = .ok (.table t, (w.afterAll before).bind name (.table t))) ∨
        (∃ e, (w.afterAll before).step s = .error e) ∧
          (∀ name t, ¬Makes (w.afterAll before) s name t) ∧
          w.afterAll steps = w.afterAll (before ++ rest)) ∧
      (∀ before rest name t, steps = before ++ rest →
        (w.afterAll before).find? name = some (.table t) →
        Spares (w.afterAll before) rest name →
        (w.afterAll steps).find? name = some (.table t)) ∧
      ∀ name binding,
        (w.afterAll steps).find? name = some binding ↔ Leaves w steps name binding := by
  refine ⟨fun records => ⟨fun t => ofRecords_eq_ok, exists_ofRecords_iff,
    fun index issues => ofRecords_eq_invalidEntry, fun name => ofRecords_eq_duplicateName⟩,
    fun base ops => ⟨exists_mergedWith_iff, fun e => mergedWith_eq_error⟩,
    fun base lists h => exists_foldlM_mergedWith base h, ?_⟩
  intro w steps hsteps
  refine ⟨?_, ?_, fun name binding => find?_afterAll hsteps⟩
  · rintro before s rest rfl
    rcases makes_or_fails (w.afterAll before) (hsteps s (by simp)) with hmade | ⟨⟨e, he⟩, hnone⟩
    · exact .inl hmade
    · exact .inr ⟨⟨e, he⟩, hnone, afterAll_of_error he⟩
  · rintro before rest name t rfl hbound hspares
    rw [afterAll_append, find?_afterAll fun s hs => hsteps s (List.mem_append_right _ hs)]
    exact .kept hspares hbound

/-- A built-in operator is overridden twice. In a session two of four steps repeat a name and fail;
the table that is merged into keeps its row. -/
theorem tables_of_records_and_merges_session :
    let op (name token : String) : Operator := { name, token }
    let record (name token : String) : Node :=
      .table [("Name", .text name), ("QueryOperator", .text token)]
    let lists := [[op "-eq" "IS"], [op "-eq" "EQUALS"]]
    let steps : List Step := [.records "a" [record "-x" "X", record "-x" "Y"],
      .records "a" [record "-x" "X"], .merge "b" "a" [record "-x" "Y", record "-y" "Z"],
      .mergeEach "a" "b" [record "-z" "1", record "-z" "2"]]
    let a : OperatorTable := ⟨[op "-x" "X"], List.nodup_singleton _⟩
    let b : OperatorTable := ⟨[op "-x" "Y", op "-y" "Z"], by decide⟩
    (∀ ops ∈ lists, (ops.map Operator.name).Nodup) ∧
      (∃ t, lists.foldlM mergedWith .builtin = .ok t) ∧
      (∀ s ∈ steps, IsTabular s) ∧ Leaves ⟨[]⟩ steps "a" (.table a) ∧
      Leaves ⟨[]⟩ steps "b" (.table b) := by
  intro op record lists steps a b
  have hlists : ∀ ops ∈ lists, (ops.map Operator.name).Nodup := by decide
  have hsteps : ∀ s ∈ steps, IsTabular s := by
    simp only [steps, List.forall_mem_cons]
    exact ⟨.records .., .records .., .merge .., .mergeEach .., List.forall_mem_nil _⟩
  obtain ⟨-, -, hmerges, hsession⟩ := tables_of_records_and_merges
  obtain ⟨-, -, hleaves⟩ := hsession ⟨[]⟩ steps hsteps
  exact ⟨hlists, hmerges _ lists hlists, hsteps, (hleaves "a" _).1 rfl, (hleaves "b" _).1 rfl⟩

end CaretQuery
