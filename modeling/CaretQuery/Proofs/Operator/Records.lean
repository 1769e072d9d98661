import CaretQuery.Operator.Record
import CaretQuery.Proofs.Operator.Merging
import Mathlib.Data.List.Forall2

/-! # Tables of records

A list of records becomes a table of what the records describe, in order. The
first record that describes no operator is reported before any name is looked
at, and then the first operator whose name an operator before it has.
-/
namespace CaretQuery

/-- The records describe the operators, one each. -/
abbrev DescribeEach : List Node → List Operator → Prop :=
  List.Forall₂ fun record op => Record.read record = .ok op

/-- The record at a position describes no operator, and all before it do. -/
def FirstInvalid (records : List Node) (index : Nat) (issues : List Issue) : Prop :=
  ∃ before record after, records = before ++ record :: after ∧ before.length = index ∧
    (∃ ops, DescribeEach before ops) ∧ Record.read record = .error issues

/-- An operator has the name of one before it, and none before it has. -/
def FirstRepeat (ops : List Operator) (op : Operator) : Prop :=
  ∃ before after, ops = before ++ op :: after ∧ (before.map Operator.name).Nodup ∧
    op.name ∈ before.map Operator.name

/-! ## Reading the records -/

theorem readRecordsFrom_eq_ok {index : Nat} {records : List Node} {ops : List Operator} :
    readRecordsFrom index records = .ok ops ↔ DescribeEach records ops := by
  induction records generalizing index ops with
  | nil => simp [readRecordsFrom, DescribeEach, eq_comm]
  | cons record records ih =>
    rw [readRecordsFrom, DescribeEach, List.forall₂_cons_left_iff]
    cases hread : Record.read record with
    | error issues => simp
    | ok op =>
      have hrest : (∃ rest, readRecordsFrom (index + 1) records = .ok rest ∧ op :: rest = ops) ↔
          (readRecordsFrom (index + 1) records).map (op :: ·) = .ok ops := by
        cases readRecordsFrom (index + 1) records <;> simp [Except.map]
      rw [← hrest]
      simp [ih, DescribeEach, eq_comm]

theorem readRecordsFrom_eq_error {index : Nat} {records : List Node} {e : TableError} :
    readRecordsFrom index records = .error e ↔
      ∃ i issues, FirstInvalid records i issues ∧ e = .invalidEntry (index + i) issues := by
  induction records generalizing index with
  | nil => simp [readRecordsFrom, FirstInvalid]
  | cons record records ih =>
    rw [readRecordsFrom]
    cases hread : Record.read record with
    | error issues =>
      constructor
      · rintro ⟨⟩
        exact ⟨0, issues, ⟨[], record, records, rfl, rfl, ⟨[], .nil⟩, hread⟩, rfl⟩
      · rintro ⟨i, others, ⟨before, other, after, hrecords, rfl, ⟨ops, hops⟩, hother⟩, rfl⟩
        cases hops with
        | nil =>
          obtain ⟨rfl, rfl⟩ := List.cons.inj hrecords
          obtain rfl := Except.error.inj (hread.symm.trans hother)
          rfl
        | cons hfirst hrest =>
          obtain ⟨rfl, rfl⟩ := List.cons.inj hrecords
          simp [hread] at hfirst
    | ok op =>
      have hmap : (readRecordsFrom (index + 1) records).map (op :: ·) = .error e ↔
          readRecordsFrom (index + 1) records = .error e := by
        cases readRecordsFrom (index + 1) records <;> simp [Except.map]
      rw [hmap, ih]
      constructor
      · rintro ⟨i, issues, ⟨before, other, after, rfl, rfl, ⟨ops, hops⟩, hother⟩, rfl⟩
        refine ⟨before.length + 1, issues, ⟨record :: before, other, after, rfl, rfl, ?_, hother⟩,
          by rw [Nat.add_assoc, Nat.add_comm 1]⟩
        exact ⟨op :: ops, .cons hread hops⟩
      · rintro ⟨i, issues, ⟨before, other, after, hrecords, rfl, ⟨ops, hops⟩, hother⟩, rfl⟩
        cases hops with
        | nil =>
          obtain ⟨rfl, rfl⟩ := List.cons.inj hrecords
          simp [hread] at hother
        | @cons _ _ before ops hfirst hrest =>
          obtain ⟨rfl, rfl⟩ := List.cons.inj hrecords
          refine ⟨before.length, issues, ⟨before, other, after, rfl, rfl, ⟨ops, hrest⟩, hother⟩, ?_⟩
          rw [List.length_cons, Nat.add_assoc, Nat.add_comm 1]

/-- Records that all describe operators have no first invalid one. -/
theorem DescribeEach.not_firstInvalid {records : List Node} {ops : List Operator} {index : Nat}
    {issues : List Issue} (h : DescribeEach records ops) : ¬ FirstInvalid records index issues := by
  intro hinvalid
  have hok : readRecordsFrom 0 records = .ok ops := readRecordsFrom_eq_ok.2 h
  rw [readRecordsFrom_eq_error.2 ⟨index, issues, hinvalid, rfl⟩] at hok
  cases hok

theorem DescribeEach.unique {records : List Node} {ops others : List Operator}
    (h : DescribeEach records ops) (hothers : DescribeEach records others) : ops = others := by
  have hok : readRecordsFrom 0 records = .ok ops := readRecordsFrom_eq_ok.2 h
  exact Except.ok.inj (hok.symm.trans (readRecordsFrom_eq_ok.2 hothers))

/-! ## Names -/

namespace OperatorTable

theorem extend_eq_error {t : OperatorTable} {ops : List Operator} {name : String} :
    t.extend ops = .error name ↔
      ∃ before op after, ops = before ++ op :: after ∧
        ((t.rows ++ before).map Operator.name).Nodup ∧
        op.name ∈ (t.rows ++ before).map Operator.name ∧ op.name = name := by
  induction ops generalizing t with
  | nil => simp [extend]
  | cons first ops ih =>
    rw [extend]
    split
    next h =>
      constructor
      · rintro ⟨⟩
        exact ⟨[], first, ops, rfl, by simpa using t.nodup, by simpa using mem_names.1 h, rfl⟩
      · rintro ⟨before, op, after, hops, hnodup, -, rfl⟩
        cases before with
        | nil =>
          obtain ⟨rfl, -⟩ := List.cons.inj hops
          rfl
        | cons other before =>
          -- The first operator would stand among names that are pairwise different.
          obtain ⟨rfl, -⟩ := List.cons.inj hops
          rw [List.map_append, List.nodup_append] at hnodup
          exact absurd rfl (hnodup.2.2 _ h _ (by simp))
    next h =>
      rw [ih]
      constructor
      · rintro ⟨before, op, after, rfl, hnodup, hmem, rfl⟩
        exact ⟨first :: before, op, after, rfl, by simpa [append] using hnodup,
          by simpa [append] using hmem, rfl⟩
      · rintro ⟨before, op, after, hops, hnodup, hmem, rfl⟩
        cases before with
        | nil =>
          obtain ⟨rfl, -⟩ := List.cons.inj hops
          exact absurd (mem_names.2 (by simpa using hmem)) h
        | cons other before =>
          obtain ⟨rfl, rfl⟩ := List.cons.inj hops
          exact ⟨before, op, after, rfl, by simpa [append] using hnodup,
            by simpa [append] using hmem, rfl⟩

theorem rows_of_extend {t u : OperatorTable} {ops : List Operator} (h : t.extend ops = .ok u) :
    u.rows = t.rows ++ ops := by
  induction ops generalizing t with
  | nil =>
    obtain rfl : t = u := Except.ok.inj h
    simp
  | cons op ops ih =>
    rw [extend] at h
    split at h
    next hop => cases h
    next hop => simpa [append] using ih h

theorem ofList_eq_ok {ops : List Operator} {t : OperatorTable} :
    ofList ops = .ok t ↔ t.rows = ops := by
  constructor
  · exact rows_of_extend
  · rintro rfl
    exact ofList_rows t

theorem ofList_eq_error {ops : List Operator} {name : String} :
    ofList ops = .error name ↔ ∃ op, FirstRepeat ops op ∧ op.name = name := by
  rw [ofList, extend_eq_error]
  constructor
  · rintro ⟨before, op, after, hops, hnodup, hmem, hname⟩
    exact ⟨op, ⟨before, after, hops, hnodup, hmem⟩, hname⟩
  · rintro ⟨op, ⟨before, after, hops, hnodup, hmem⟩, hname⟩
    exact ⟨before, op, after, hops, hnodup, hmem, hname⟩

/-- The rows of a table repeat no name. -/
theorem not_firstRepeat_rows (t : OperatorTable) (op : Operator) : ¬ FirstRepeat t.rows op := by
  intro h
  have hok := ofList_rows t
  rw [ofList_eq_error.2 ⟨op, h, rfl⟩] at hok
  cases hok

/-- Records give the table of what they describe. -/
theorem ofRecords_eq_ok {records : List Node} {t : OperatorTable} :
    ofRecords records = .ok t ↔ DescribeEach records t.rows := by
  have hread : readRecordsFrom 0 records = .ok t.rows ↔ DescribeEach records t.rows :=
    readRecordsFrom_eq_ok
  rw [ofRecords, ← hread]
  cases readRecordsFrom 0 records with
  | error e => simp
  | ok read =>
    have hrows : (ofList read).mapError TableError.duplicateName = .ok t ↔ t.rows = read := by
      rw [← ofList_eq_ok]
      cases ofList read <;> simp [Except.mapError]
    simp only [hrows, Except.ok.injEq, eq_comm]

/-- What becomes of a list of records. -/
theorem ofRecords_cases (records : List Node) :
    (∃ index issues, FirstInvalid records index issues ∧
      ofRecords records = .error (.invalidEntry index issues)) ∨
    (∃ ops op, DescribeEach records ops ∧ FirstRepeat ops op ∧
      ofRecords records = .error (.duplicateName op.name)) ∨
    ∃ t : OperatorTable, DescribeEach records t.rows ∧ ofRecords records = .ok t := by
  rw [ofRecords]
  cases hread : readRecordsFrom 0 records with
  | error e =>
    obtain ⟨index, issues, hinvalid, rfl⟩ := readRecordsFrom_eq_error.1 hread
    exact .inl ⟨index, issues, hinvalid, by rw [Nat.zero_add]⟩
  | ok ops =>
    have hops := readRecordsFrom_eq_ok.1 hread
    cases htable : ofList ops with
    | error name =>
      obtain ⟨op, hrepeat, rfl⟩ := ofList_eq_error.1 htable
      exact .inr (.inl ⟨ops, op, hops, hrepeat, by simp [htable, Except.mapError]⟩)
    | ok t =>
      obtain rfl := ofList_eq_ok.1 htable
      exact .inr (.inr ⟨t, hops, by simp [htable, Except.mapError]⟩)

end OperatorTable
end CaretQuery
