import CaretQuery.Proofs.Config.Document
import CaretQuery.Proofs.Operator.Writing

/-! # Writing operators in a document

The records that write a table are read as the table, on their own and as the
entries of an operators section. The section stands for the table itself where
it replaces the built-in one, and for the two merged where it does not.
-/
namespace CaretQuery.Config

variable {document settings : List (String × Node)} {records : List Node}
variable {table : OperatorTable} {replace : Option Bool}

/-- An operators section with the given entries, and with the given setting on
replacement if there is one. -/
structure IsSection (settings : List (String × Node)) (replace : Option Bool)
    (records : List Node) : Prop where
  entries : Node.find? settings "entries" = some (.array records)
  replace : Node.find? settings "replace" = replace.map .bool

/-- Every table that a document describes is valid. -/
theorem Describes.isValid (h : Describes document table) : table.IsValid := by
  cases h with
  | builtin => exact OperatorTable.isValid_builtin
  | ofSection hsection htable =>
    cases htable with
    | replaced hreplace hrows => exact hrows.isValid
    | @added ops hreplace hops hrows =>
      intro op hop
      rw [hrows, List.mem_append] at hop
      rcases hop with hop | hop
      · obtain ⟨row, hrow, rfl⟩ := List.mem_map.1 hop
        cases hfind : ops.find? fun op => op.name == row.name with
        | none => exact OperatorTable.isValid_builtin row hrow
        | some op => exact hops.isValid op (List.mem_of_find?_eq_some hfind)
      · exact hops.isValid op (List.mem_filter.1 hop).1

theorem isTable_of_writes {ops : List Operator} (h : List.Forall₂ Record.Writes ops records) :
    records.all Node.isTable = true := by
  induction h with
  | nil => rfl
  | cons hrecord hrest ih =>
    cases hrecord
    exact ih

theorem IsSection.entriesOf_eq (h : IsSection settings replace records)
    (htables : records.all Node.isTable = true) : entriesOf settings = .ok records := by
  rw [entriesOf, h.entries]
  simp only [htables, if_true]

theorem IsSection.replaceOf_eq (h : IsSection settings replace records) :
    replaceOf settings = .ok (replace.getD false) := by
  rw [replaceOf, h.replace]
  cases replace <;> rfl

/-- A section whose entries write a table describes the table, or the built-in
table merged with it. -/
theorem IsSection.tableOf_eq (h : IsSection settings replace records) (hvalid : table.IsValid)
    (hwrites : table.Writes records) :
    tableOf settings =
      if replace.getD false then
        if table.rows.isEmpty then .error .replaceByNothing else .ok table
      else .ok (OperatorTable.builtin.override table) := by
  have hnodes : entryNodes settings = records := by rw [entryNodes, h.entries]
  refine tableOf_of_loaded ?_ h.replaceOf_eq ?_
  · rw [hnodes, h.entriesOf_eq (isTable_of_writes hwrites)]
  · rw [hnodes, OperatorTable.ofRecords_of_writes hvalid hwrites]

/-- The records that write a table are read as the table again. In a document
they stand for the table itself if it is to replace the built-in one and has an
operator, and for the built-in table merged with it if it is not. -/
theorem records_roundTrip (hvalid : table.IsValid) (hwrites : table.Writes records) :
    OperatorTable.ofRecords records = .ok table ∧
    ∀ document settings replace, Node.find? document "operators" = some (.table settings) →
      IsSection settings replace records →
      (replace = some true → table.rows ≠ [] → tableOfDocument document = .ok (some table)) ∧
      (replace ≠ some true → ∃ merged, OperatorTable.builtin.merged table.rows = .ok merged ∧
        tableOfDocument document = .ok (some merged)) := by
  refine ⟨OperatorTable.ofRecords_of_writes hvalid hwrites, ?_⟩
  intro document settings replace hsection hsettings
  have htable := hsettings.tableOf_eq hvalid hwrites
  rw [tableOfDocument, hsection]
  simp only [htable]
  constructor
  · rintro rfl hrows
    simp [hrows, Except.map]
  · intro hreplace
    have hkept : replace.getD false = false := by
      cases replace <;> simp_all
    refine ⟨_, OperatorTable.merged_rows .builtin table, ?_⟩
    simp [hkept, Except.map]

/-- Two operators under mixed keys, their entries from the last to the first. -/
theorem records_roundTrip_mixed :
    let table : OperatorTable :=
      ⟨[⟨"-none", "NONE", false, none⟩, ⟨"-eq", "==", true, some "equal"⟩], by decide⟩
    let first : List (String × Node) := [("name", .text "-none"), ("QueryOperator", .text "NONE"),
      ("requires_value", .bool false), ("Description", .null)]
    let second : List (String × Node) := [("Name", .text "-eq"), ("query_operator", .text "=="),
      ("description", .text "equal")]
    let records : List Node := [.table first.reverse, .table second.reverse]
    let added : List (String × Node) := [("entries", .array records)]
    let replaced : List (String × Node) := ("replace", .bool true) :: added
    table.IsValid ∧ table.Writes records ∧ OperatorTable.ofRecords records = .ok table ∧
      tableOfDocument [("operators", .table replaced)] = .ok (some table) ∧
      ∃ merged, OperatorTable.builtin.merged table.rows = .ok merged ∧
        tableOfDocument [("operators", .table added)] = .ok (some merged) := by
  intro table first second records added replaced
  have hvalid : table.IsValid := by decide
  have hfirst : Record.WritesFields (Record.fieldsOf ⟨"-none", "NONE", false, none⟩) first :=
    .cons (.given rfl) (.cons (.given rfl) (.cons (.given rfl) (.cons (.given rfl) .nil)))
  have hsecond : Record.WritesFields (Record.fieldsOf ⟨"-eq", "==", true, some "equal"⟩) second :=
    .cons (.given rfl) (.cons (.given rfl) (.cons (.omitted rfl) (.cons (.given rfl) .nil)))
  have hwrites : table.Writes records :=
    .cons (.table hfirst first.reverse_perm) (.cons (.table hsecond second.reverse_perm) .nil)
  obtain ⟨hread, hdocument⟩ := records_roundTrip hvalid hwrites
  refine ⟨hvalid, hwrites, hread, ?_, ?_⟩
  · exact (hdocument _ replaced (some true) rfl ⟨rfl, rfl⟩).1 rfl nofun
  · exact (hdocument _ added none rfl ⟨rfl, rfl⟩).2 nofun

end CaretQuery.Config
