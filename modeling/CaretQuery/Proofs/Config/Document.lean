import CaretQuery.Config
import CaretQuery.Proofs.Operator.Records

/-! # The operator table of a document

The faults that a document may have are stated one by one, each without regard
to the others, and ranked. A document with faults is refused with the one of
the lowest rank, and a document without faults describes a table.
-/
namespace CaretQuery.Config

variable {document settings : List (String × Node)}

/-- The entries of the operators section, as far as they are an array. -/
def entryNodes (settings : List (String × Node)) : List Node :=
  match Node.find? settings "entries" with
  | some (.array records) => records
  | _ => []

/-- The faults that an operators section may have. -/
inductive SectionFault (settings : List (String × Node)) : ConfigFault → Prop
  | entriesNotTables {node : Node} (hentries : Node.find? settings "entries" = some node)
      (hnot : ∀ records, node = .array records → ∃ record ∈ records, record.isTable = false) :
      SectionFault settings .entriesNotTables
  | replaceNotBool {node : Node} (hreplace : Node.find? settings "replace" = some node)
      (hnot : ∀ b, node ≠ .bool b) : SectionFault settings .replaceNotBool
  | invalidEntry {index : Nat} {issues : List Issue}
      (hinvalid : FirstInvalid (entryNodes settings) index issues) :
      SectionFault settings (.badTable (.invalidEntry index issues))
  | duplicateName {ops : List Operator} {op : Operator}
      (hops : DescribeEach (entryNodes settings) ops) (hrepeat : FirstRepeat ops op) :
      SectionFault settings (.badTable (.duplicateName op.name))
  | replaceByNothing (hreplace : Node.find? settings "replace" = some (.bool true))
      (hentries : entryNodes settings = []) : SectionFault settings .replaceByNothing

/-- The faults that a document may have. -/
inductive HasFault (document : List (String × Node)) : ConfigFault → Prop
  | notTable {node : Node} (hsection : Node.find? document "operators" = some node)
      (hnull : node ≠ .null) (htable : node.isTable = false) : HasFault document .notTable
  | ofSection {settings : List (String × Node)} {fault : ConfigFault}
      (hsection : Node.find? document "operators" = some (.table settings))
      (hfault : SectionFault settings fault) : HasFault document fault

/-- The place of a fault in the order in which faults are looked for. -/
def faultRank : ConfigFault → Nat
  | .notTable => 0
  | .entriesNotTables => 1
  | .replaceNotBool => 2
  | .badTable (.invalidEntry ..) => 3
  | .badTable (.duplicateName _) => 4
  | .replaceByNothing => 5
  | .notToml | .unreadable _ => 6

/-- One of some faults, with none of them before it. -/
def IsFirst (faults : ConfigFault → Prop) (fault : ConfigFault) : Prop :=
  faults fault ∧ ∀ other, faults other → faultRank fault ≤ faultRank other

/-- The table that an operators section without faults describes: its own
operators in their order, or the built-in ones, each replaced by the operator of
its name, and then the operators with new names. -/
inductive SectionTable (settings : List (String × Node)) (table : OperatorTable) : Prop
  | replaced (hreplace : Node.find? settings "replace" = some (.bool true))
      (hrows : DescribeEach (entryNodes settings) table.rows)
  | added {ops : List Operator}
      (hreplace : Node.find? settings "replace" = none ∨
        Node.find? settings "replace" = some (.bool false))
      (hops : DescribeEach (entryNodes settings) ops)
      (hrows : table.rows =
        builtinRows.map (fun row => (ops.find? fun op => op.name == row.name).getD row) ++
          ops.filter (·.name ∉ builtinRows.map Operator.name))

/-- The table that a document without faults describes. -/
inductive Describes (document : List (String × Node)) : OperatorTable → Prop
  | builtin (hsection : Node.find? document "operators" = none ∨
      Node.find? document "operators" = some .null) : Describes document .builtin
  | ofSection {settings : List (String × Node)} {table : OperatorTable}
      (hsection : Node.find? document "operators" = some (.table settings))
      (htable : SectionTable settings table) : Describes document table

/-! ## Sections -/

theorem entriesOf_cases (settings : List (String × Node)) :
    (SectionFault settings .entriesNotTables ∧
      entriesOf settings = .error .entriesNotTables) ∨
    (¬ SectionFault settings .entriesNotTables ∧
      entriesOf settings = .ok (entryNodes settings)) := by
  rw [entriesOf, entryNodes]
  cases hentries : Node.find? settings "entries" with
  | none =>
    refine .inr ⟨?_, rfl⟩
    rintro ⟨hsome, -⟩
    simp [hentries] at hsome
  | some node =>
    cases node with
    | array records =>
      by_cases hall : records.all Node.isTable = true
      · refine .inr ⟨?_, by simp only [hall, if_true]⟩
        rintro ⟨hsome, hnot⟩
        obtain rfl := Option.some.inj (hentries.symm.trans hsome)
        obtain ⟨record, hrecord, hfalse⟩ := hnot records rfl
        simp [List.all_eq_true.1 hall record hrecord] at hfalse
      · refine .inl ⟨.entriesNotTables hentries ?_, by simp only [hall]; rfl⟩
        rintro _ ⟨⟩
        simpa using hall
    | _ => exact .inl ⟨.entriesNotTables hentries (by rintro _ ⟨⟩), rfl⟩

theorem replaceOf_cases (settings : List (String × Node)) :
    (SectionFault settings .replaceNotBool ∧ replaceOf settings = .error .replaceNotBool) ∨
    ∃ b, ¬ SectionFault settings .replaceNotBool ∧ replaceOf settings = .ok b ∧
      if b then Node.find? settings "replace" = some (.bool true)
      else Node.find? settings "replace" = none ∨
        Node.find? settings "replace" = some (.bool false) := by
  rw [replaceOf]
  cases hreplace : Node.find? settings "replace" with
  | none =>
    refine .inr ⟨false, ?_, rfl, by simp⟩
    rintro ⟨⟩
    simp_all
  | some node =>
    cases node with
    | bool b =>
      refine .inr ⟨b, ?_, rfl, by cases b <;> simp⟩
      rintro ⟨⟩
      simp_all
    | _ => exact .inl ⟨.replaceNotBool hreplace (by rintro _ ⟨⟩), rfl⟩

/-- Entries that make up a table leave one fault, the replacement by nothing. -/
theorem SectionFault.eq_replaceByNothing {fault : ConfigFault} {loaded : OperatorTable}
    (hnoentries : ¬ SectionFault settings .entriesNotTables)
    (hnoreplace : ¬ SectionFault settings .replaceNotBool)
    (hloaded : DescribeEach (entryNodes settings) loaded.rows) (h : SectionFault settings fault) :
    fault = .replaceByNothing := by
  cases h with
  | entriesNotTables hsome hnot => exact absurd (.entriesNotTables hsome hnot) hnoentries
  | replaceNotBool hsome hnot => exact absurd (.replaceNotBool hsome hnot) hnoreplace
  | invalidEntry hinvalid => exact absurd hinvalid hloaded.not_firstInvalid
  | duplicateName hops hrepeat =>
    obtain rfl := hops.unique hloaded
    exact absurd hrepeat (loaded.not_firstRepeat_rows _)
  | replaceByNothing hreplace hentries => rfl

theorem tableOf_of_loaded {replace : Bool} {loaded : OperatorTable}
    (hentries : entriesOf settings = .ok (entryNodes settings))
    (hreplace : replaceOf settings = .ok replace)
    (hread : OperatorTable.ofRecords (entryNodes settings) = .ok loaded) :
    tableOf settings =
      if replace then if loaded.rows.isEmpty then .error .replaceByNothing else .ok loaded
      else .ok (OperatorTable.builtin.override loaded) := by
  have hmerged : OperatorTable.builtin.mergedWith loaded.rows =
      .ok (OperatorTable.builtin.override loaded) := by
    rw [OperatorTable.mergedWith, OperatorTable.merged_rows]
    rfl
  simp [tableOf, hentries, hreplace, hread, hmerged, bind, Except.bind, Except.mapError]

theorem rows_builtin_override_ne_nil (t : OperatorTable) :
    (OperatorTable.builtin.override t).rows ≠ [] := by
  rw [OperatorTable.rows_override]
  simp [OperatorTable.builtin, builtinRows]

/-- A section has a first fault, or none and a table. -/
theorem tableOf_cases (settings : List (String × Node)) :
    (∃ fault, tableOf settings = .error fault ∧ IsFirst (SectionFault settings) fault) ∨
    ((∀ fault, ¬ SectionFault settings fault) ∧ ∃ table, tableOf settings = .ok table ∧
      SectionTable settings table ∧ table.rows ≠ []) := by
  rcases entriesOf_cases settings with ⟨hfault, hentries⟩ | ⟨hnoentries, hentries⟩
  · refine .inl ⟨_, by rw [tableOf, hentries]; rfl, hfault, ?_⟩
    intro other hother
    cases hother <;> simp [faultRank]
  rcases replaceOf_cases settings with ⟨hfault, hreplace⟩ | ⟨replace, hnoreplace, hreplace, hgiven⟩
  · refine .inl ⟨_, by rw [tableOf, hentries, hreplace]; rfl, hfault, ?_⟩
    intro other hother
    cases hother with
    | entriesNotTables hsome hnot => exact absurd (.entriesNotTables hsome hnot) hnoentries
    | _ => simp [faultRank]
  rcases OperatorTable.ofRecords_cases (entryNodes settings) with
    ⟨index, issues, hinvalid, hread⟩ | ⟨ops, op, hops, hrepeat, hread⟩ | ⟨loaded, hloaded, hread⟩
  · have herror : tableOf settings = .error (.badTable (.invalidEntry index issues)) := by
      simp [tableOf, hentries, hreplace, hread, bind, Except.bind, Except.mapError]
    refine .inl ⟨_, herror, .invalidEntry hinvalid, ?_⟩
    intro other hother
    cases hother with
    | entriesNotTables hsome hnot => exact absurd (.entriesNotTables hsome hnot) hnoentries
    | replaceNotBool hsome hnot => exact absurd (.replaceNotBool hsome hnot) hnoreplace
    | _ => simp [faultRank]
  · have herror : tableOf settings = .error (.badTable (.duplicateName op.name)) := by
      simp [tableOf, hentries, hreplace, hread, bind, Except.bind, Except.mapError]
    refine .inl ⟨_, herror, .duplicateName hops hrepeat, ?_⟩
    intro other hother
    cases hother with
    | entriesNotTables hsome hnot => exact absurd (.entriesNotTables hsome hnot) hnoentries
    | replaceNotBool hsome hnot => exact absurd (.replaceNotBool hsome hnot) hnoreplace
    | invalidEntry hinvalid => exact absurd hinvalid hops.not_firstInvalid
    | _ => simp [faultRank]
  have hlast (fault : ConfigFault) (hfault : SectionFault settings fault) :
      fault = .replaceByNothing := hfault.eq_replaceByNothing hnoentries hnoreplace hloaded
  have htable := tableOf_of_loaded hentries hreplace hread
  cases replace with
  | false =>
    refine .inr ⟨?_, _, htable, .added (by simpa using hgiven) hloaded
      (OperatorTable.rows_override .builtin loaded), rows_builtin_override_ne_nil loaded⟩
    intro fault hfault
    obtain rfl := hlast fault hfault
    cases hfault with
    | replaceByNothing hreplace hentries => simp [hreplace] at hgiven
  | true =>
    have hgiven : Node.find? settings "replace" = some (.bool true) := hgiven
    cases hrows : loaded.rows with
    | nil =>
      rw [hrows] at hloaded
      refine .inl ⟨.replaceByNothing, by simp [htable, hrows],
        .replaceByNothing hgiven (List.forall₂_nil_right_iff.1 hloaded), ?_⟩
      intro other hother
      exact Nat.le_of_eq (congrArg faultRank (hlast other hother)).symm
    | cons op ops =>
      refine .inr ⟨?_, loaded, by simp [htable, hrows], .replaced hgiven hloaded, by simp [hrows]⟩
      intro fault hfault
      obtain rfl := hlast fault hfault
      cases hfault with
      | replaceByNothing hreplace hentries =>
        rw [hentries, hrows] at hloaded
        cases hloaded

/-- A document is refused with the first of its faults. Without faults it
describes a table of operators with different names, and there is at least one. -/
theorem tableOfDocument_outcome (document : List (String × Node)) :
    (∃ fault, tableOfDocument document = .error fault ∧ IsFirst (HasFault document) fault) ∨
    ((∀ fault, ¬ HasFault document fault) ∧ ∃ custom, tableOfDocument document = .ok custom ∧
      Describes document (custom.getD .builtin) ∧ (custom.getD .builtin).rows ≠ [] ∧
      (custom.getD .builtin).names.Nodup) := by
  rw [tableOfDocument]
  have hbuiltin (hsection : Node.find? document "operators" = none ∨
      Node.find? document "operators" = some .null) : ∀ fault, ¬ HasFault document fault := by
    intro fault hfault
    cases hfault with
    | notTable hsome hnull htable => simp_all
    | ofSection hsome hfault => simp_all
  cases hsection : Node.find? document "operators" with
  | none =>
    refine .inr ⟨hbuiltin (.inl hsection), none, rfl, .builtin (.inl hsection), ?_⟩
    exact ⟨by simp [OperatorTable.builtin, builtinRows], OperatorTable.builtin.nodup⟩
  | some node =>
    cases node with
    | null =>
      refine .inr ⟨hbuiltin (.inr hsection), none, rfl, .builtin (.inr hsection), ?_⟩
      exact ⟨by simp [OperatorTable.builtin, builtinRows], OperatorTable.builtin.nodup⟩
    | table settings =>
      have hiff (fault : ConfigFault) :
          HasFault document fault ↔ SectionFault settings fault := by
        constructor
        · intro hfault
          cases hfault with
          | notTable hsome hnull htable =>
            obtain rfl := Option.some.inj (hsection.symm.trans hsome)
            simp [Node.isTable] at htable
          | ofSection hsome hfault =>
            obtain ⟨⟩ := Option.some.inj (hsection.symm.trans hsome)
            exact hfault
        · exact .ofSection hsection
      have hfaults : HasFault document = SectionFault settings := funext fun f => propext (hiff f)
      rw [hfaults]
      rcases tableOf_cases settings with ⟨fault, herror, hfirst⟩ | ⟨hnone, table, hok, htable, hne⟩
      · exact .inl ⟨fault, by simp [herror, Except.map], hfirst⟩
      · exact .inr ⟨hnone, some table, by simp [hok, Except.map], .ofSection hsection htable, hne,
          table.nodup⟩
    | _ =>
      refine .inl ⟨_, rfl, .notTable hsection (by rintro ⟨⟩) rfl, ?_⟩
      intro other hother
      simp [faultRank]

/-- An entry without a name counts less than a setting that is no truth value. -/
example : tableOfDocument [("operators", .table [("entries", .array [.table []]),
    ("replace", .int 1)])] = .error .replaceNotBool := by rfl

end CaretQuery.Config
