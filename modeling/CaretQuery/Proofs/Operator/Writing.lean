import CaretQuery.Proofs.Operator.Records

/-! # Writing operators as records

A record that writes an operator gives each field at most one entry, under
either of its spellings, and leaves out only a field that holds its default.
The entries stand in any order. Such a record reads as the operator, and so a
list of such records reads as the table of the operators.
-/
namespace CaretQuery

/-- An operator with a name and a token, as every operator has that is read. -/
structure Operator.IsValid (op : Operator) : Prop where
  name_ne : op.name ≠ ""
  token_ne : op.token ≠ ""

instance (op : Operator) : Decidable op.IsValid :=
  decidable_of_iff (op.name ≠ "" ∧ op.token ≠ "")
    ⟨fun h => ⟨h.1, h.2⟩, fun h => ⟨h.name_ne, h.token_ne⟩⟩

namespace Record

/-- What a record says about one field. A default may be left unsaid. -/
structure Field where
  key : Key
  node : Node
  isDefault : Bool

variable {key other : Key} {node record : Node} {field : Field} {fields : List Field}
  {op : Operator}
variable {part entries ordered : List (String × Node)} {entry : String × Node}

def nodeOfOptionalText : Option String → Node
  | none => .null
  | some s => .text s

def fieldsOf (op : Operator) : List Field :=
  [⟨nameKey, .text op.name, false⟩, ⟨tokenKey, .text op.token, false⟩,
    ⟨requiresValueKey, .bool op.requiresValue, op.requiresValue⟩,
    ⟨descriptionKey, nodeOfOptionalText op.description, op.description.isNone⟩]

def Key.isSpelling (key : Key) (spelling : String) : Bool :=
  spelling == key.primary || spelling == key.secondary

/-- The entries that write a field: one under either of its spellings, or none
if its value is the default. -/
inductive WritesField (field : Field) : List (String × Node) → Prop
  | given {spelling : String} (hspelling : field.key.isSpelling spelling = true) :
      WritesField field [(spelling, field.node)]
  | omitted (hdefault : field.isDefault = true) : WritesField field []

/-- Entries that write fields, one field after the other. -/
inductive WritesFields : List Field → List (String × Node) → Prop
  | nil : WritesFields [] []
  | cons {field : Field} {fields : List Field} {part rest : List (String × Node)}
      (hpart : WritesField field part) (hrest : WritesFields fields rest) :
      WritesFields (field :: fields) (part ++ rest)

/-- A record writes an operator if its entries, in some order, write the fields. -/
inductive Writes (op : Operator) : Node → Prop
  | table {entries ordered : List (String × Node)} (hfields : WritesFields (fieldsOf op) ordered)
      (horder : entries.Perm ordered) : Writes op (.table entries)

/-! ## The entries of a field -/

/-- The entries under the spellings of a key. -/
def Key.entriesOf (key : Key) (entries : List (String × Node)) : List (String × Node) :=
  entries.filter fun entry => key.isSpelling entry.1

theorem Key.entriesOf_append (key : Key) (first second : List (String × Node)) :
    key.entriesOf (first ++ second) = key.entriesOf first ++ key.entriesOf second :=
  List.filter_append ..

/-- A key looks only at the entries under its own spellings. -/
theorem Key.find?_entriesOf (key : Key) (entries : List (String × Node)) :
    key.find? (key.entriesOf entries) = key.find? entries := by
  have hfind {spelling : String} (hspelling : key.isSpelling spelling = true) :
      Node.find? (key.entriesOf entries) spelling = Node.find? entries spelling := by
    rw [Node.find?, entriesOf, List.find?_filter, Node.find?]
    congr 2
    funext entry
    by_cases h : entry.1 = spelling
    · simp [h, hspelling]
    · simp [h]
  rw [find?, hfind (by simp [isSpelling]), hfind (by simp [isSpelling]), find?]

/-- Two keys have no spelling in common. -/
def Key.IsApart (key other : Key) : Prop :=
  ∀ spelling, key.isSpelling spelling = true → other.isSpelling spelling = false

theorem Key.IsApart.symm (h : key.IsApart other) : other.IsApart key := by
  intro spelling hother
  by_contra hkey
  simp [h spelling (by simpa using hkey)] at hother

theorem pairwise_isApart_fieldsOf (op : Operator) :
    (fieldsOf op).Pairwise fun field other => field.key.IsApart other.key := by
  simp [fieldsOf, Key.IsApart, Key.isSpelling, nameKey, tokenKey, requiresValueKey, descriptionKey]

theorem WritesField.entriesOf_self (h : WritesField field part) :
    field.key.entriesOf part = part := by
  cases h with
  | given hspelling => simp [Key.entriesOf, hspelling]
  | omitted => rfl

theorem WritesField.entriesOf_apart (h : WritesField field part)
    (hapart : field.key.IsApart key) : key.entriesOf part = [] := by
  cases h with
  | given hspelling => simp [Key.entriesOf, hapart _ hspelling]
  | omitted => rfl

theorem WritesFields.entriesOf_apart (h : WritesFields fields ordered)
    (hapart : ∀ field ∈ fields, field.key.IsApart key) : key.entriesOf ordered = [] := by
  induction h with
  | nil => rfl
  | cons hpart hrest ih =>
    rw [List.forall_mem_cons] at hapart
    rw [key.entriesOf_append, hpart.entriesOf_apart hapart.1, ih hapart.2, List.append_nil]

/-- Among fields that are apart, the entries of each field write it. -/
theorem WritesFields.writesField (h : WritesFields fields ordered)
    (hapart : fields.Pairwise fun field other => field.key.IsApart other.key)
    (hfield : field ∈ fields) : WritesField field (field.key.entriesOf ordered) := by
  induction h with
  | nil => cases hfield
  | @cons first fields part rest hpart hrest ih =>
    rw [List.pairwise_cons] at hapart
    rw [Key.entriesOf_append]
    rcases List.mem_cons.1 hfield with rfl | hfield
    · have hnone : field.key.entriesOf rest = [] :=
        hrest.entriesOf_apart fun other hother => (hapart.1 other hother).symm
      rwa [hpart.entriesOf_self, hnone, List.append_nil]
    · rw [hpart.entriesOf_apart (hapart.1 field hfield)]
      exact ih hapart.2 hfield

/-- The order of the entries does not matter to a field. -/
theorem WritesField.of_perm (h : WritesField field (field.key.entriesOf ordered))
    (horder : entries.Perm ordered) : WritesField field (field.key.entriesOf entries) := by
  have hperm : (field.key.entriesOf entries).Perm (field.key.entriesOf ordered) :=
    horder.filter _
  generalize field.key.entriesOf ordered = part at h hperm
  cases h with
  | given hspelling => exact List.perm_singleton.1 hperm ▸ .given hspelling
  | omitted hdefault => exact List.perm_nil.1 hperm ▸ .omitted hdefault

theorem WritesField.find?_eq_head? (h : WritesField field part) :
    field.key.find? part = part.head? := by
  cases h with
  | @given spelling hspelling =>
    by_cases hprimary : spelling = field.key.primary
    · simp [Key.find?, Node.find?, hprimary]
    · have hsecondary : spelling = field.key.secondary := by
        simpa [Key.isSpelling, hprimary] using hspelling
      have hne : field.key.secondary ≠ field.key.primary := hsecondary ▸ hprimary
      simp [Key.find?, Node.find?, hsecondary, hne]
  | omitted => rfl

theorem WritesField.find?_eq_some (h : WritesField field (field.key.entriesOf entries))
    (hentry : entry ∈ field.key.entriesOf entries) : field.key.find? entries = some entry := by
  rw [← field.key.find?_entriesOf, h.find?_eq_head?]
  generalize field.key.entriesOf entries = part at h hentry
  cases h with
  | given => rw [List.mem_singleton.1 hentry, List.head?_cons]
  | omitted => cases hentry

theorem WritesField.readField_eq {α : Type} {missing : Except IssueKind α}
    {read : Node → Except IssueKind α} {value : α}
    (h : WritesField field (field.key.entriesOf entries)) (hread : read field.node = .ok value)
    (hmissing : field.isDefault = true → missing = .ok value) :
    readField entries field.key missing read = .ok value := by
  rw [readField, ← field.key.find?_entriesOf, h.find?_eq_head?]
  generalize field.key.entriesOf entries = part at h
  cases h with
  | given => simp [hread, Except.mapError]
  | omitted hdefault => simp [hmissing hdefault, Except.mapError]

/-! ## Records -/

theorem WritesFields.exists_isSpelling (h : WritesFields fields ordered)
    (hentry : entry ∈ ordered) :
    ∃ field ∈ fields, field.key.isSpelling entry.1 = true := by
  induction h with
  | nil => cases hentry
  | cons hpart hrest ih =>
    rcases List.mem_append.1 hentry with hentry | hentry
    · refine ⟨_, List.mem_cons_self, ?_⟩
      cases hpart with
      | given hspelling =>
        obtain rfl := List.mem_singleton.1 hentry
        exact hspelling
      | omitted => cases hentry
    · obtain ⟨field, hfield, hspelling⟩ := ih hentry
      exact ⟨field, List.mem_cons_of_mem _ hfield, hspelling⟩

theorem unusedKeys_eq_nil (h : ∀ entry ∈ entries, ∃ key ∈ keys, key.find? entries = some entry) :
    unusedKeys entries = [] := by
  rw [unusedKeys, List.filter_eq_nil_iff]
  intro spelling hspelling
  obtain ⟨entry, hentry, rfl⟩ := List.mem_map.1 hspelling
  obtain ⟨key, hkey, hfind⟩ := h entry hentry
  have hused : keys.any (fun field =>
      (field.find? entries).any fun found => found.1 == entry.1) = true :=
    List.any_eq_true.2 ⟨key, hkey, by simp [hfind]⟩
  simp [hused]

theorem key_mem_keys (hfield : field ∈ fieldsOf op) : field.key ∈ keys := by
  have hkeys : (fieldsOf op).map Field.key = keys := rfl
  exact hkeys ▸ List.mem_map_of_mem hfield

theorem readNonEmpty_text {s : String} (h : s ≠ "") : readNonEmpty (.text s) = .ok s := by
  simp [readNonEmpty, h]

theorem readOptionalText_node (description : Option String) :
    readOptionalText (nodeOfOptionalText description) = .ok description := by
  cases description <;> rfl

theorem Writes.writesField (h : Writes op (.table entries)) (hfield : field ∈ fieldsOf op) :
    WritesField field (field.key.entriesOf entries) := by
  cases h with
  | table hfields horder =>
    exact (hfields.writesField (pairwise_isApart_fieldsOf op) hfield).of_perm horder

theorem Writes.unusedKeys_eq_nil (h : Writes op (.table entries)) : unusedKeys entries = [] := by
  refine Record.unusedKeys_eq_nil fun entry hentry => ?_
  have hfields : ∃ field ∈ fieldsOf op, field.key.isSpelling entry.1 = true := by
    cases h with
    | table hfields horder => exact hfields.exists_isSpelling (horder.mem_iff.1 hentry)
  obtain ⟨field, hfield, hspelling⟩ := hfields
  exact ⟨field.key, key_mem_keys hfield,
    (h.writesField hfield).find?_eq_some (List.mem_filter.2 ⟨hentry, hspelling⟩)⟩

/-- A record that writes an operator reads as the operator. -/
theorem read_of_writes (hvalid : op.IsValid) (h : Writes op record) : read record = .ok op := by
  obtain ⟨entries, rfl⟩ : ∃ entries, record = .table entries := by
    cases h
    exact ⟨_, rfl⟩
  have hname : readField entries nameKey (.error .missing) readNonEmpty = .ok op.name :=
    (h.writesField List.mem_cons_self).readField_eq (readNonEmpty_text hvalid.name_ne) nofun
  have htoken : readField entries tokenKey (.error .missing) readNonEmpty = .ok op.token :=
    (h.writesField (.tail _ (.head _))).readField_eq (readNonEmpty_text hvalid.token_ne) nofun
  have hrequiresValue : readField entries requiresValueKey (.ok true) readBool =
      .ok op.requiresValue :=
    (h.writesField (.tail _ (.tail _ (.head _)))).readField_eq rfl
      fun hdefault => congrArg Except.ok hdefault.symm
  have hdescription : readField entries descriptionKey (.ok none) readOptionalText =
      .ok op.description :=
    (h.writesField (.tail _ (.tail _ (.tail _ (.head _))))).readField_eq
      (readOptionalText_node op.description)
      fun hdefault => congrArg Except.ok (Option.isNone_iff_eq_none.1 hdefault).symm
  rw [read, readEntries, hname, htoken, hrequiresValue, hdescription, h.unusedKeys_eq_nil]
  rfl

theorem readNonEmpty_ne {s : String} (h : readNonEmpty node = .ok s) : s ≠ "" := by
  cases node with
  | text given =>
    rw [readNonEmpty] at h
    split at h
    next => cases h
    next hempty =>
      obtain rfl := Except.ok.inj h
      simpa using hempty
  | _ => cases h

theorem readField_ne {s : String}
    (h : readField entries key (.error .missing) readNonEmpty = .ok s) : s ≠ "" := by
  rw [readField] at h
  split at h
  next => cases h
  next spelling node hfind =>
    cases hread : readNonEmpty node with
    | error kind => simp [hread, Except.mapError] at h
    | ok text =>
      obtain rfl : text = s := by simpa [hread, Except.mapError] using h
      exact readNonEmpty_ne hread

/-- Every operator that is read is valid. -/
theorem isValid_of_read (h : read record = .ok op) : op.IsValid := by
  cases record with
  | table entries =>
    rw [read, readEntries] at h
    split at h
    next name token requiresValue description hname htoken hrequiresValue hdescription hextras =>
      obtain rfl := Except.ok.inj h
      exact ⟨readField_ne hname, readField_ne htoken⟩
    next => cases h
  | _ => cases h

end Record

theorem DescribeEach.isValid {records : List Node} {ops : List Operator}
    (h : DescribeEach records ops) : ∀ op ∈ ops, op.IsValid := by
  induction h with
  | nil => exact nofun
  | cons hread hrest ih => exact List.forall_mem_cons.2 ⟨Record.isValid_of_read hread, ih⟩

namespace OperatorTable

variable {table : OperatorTable} {records : List Node}

def IsValid (table : OperatorTable) : Prop := ∀ op ∈ table.rows, op.IsValid

instance (table : OperatorTable) : Decidable table.IsValid :=
  inferInstanceAs (Decidable (∀ op ∈ table.rows, op.IsValid))

/-- The records write the operators of the table, each one in its place. -/
def Writes (table : OperatorTable) : List Node → Prop :=
  List.Forall₂ Record.Writes table.rows

theorem isValid_builtin : builtin.IsValid := by decide

/-- Records that write the operators of a table are read as the table. -/
theorem ofRecords_of_writes (hvalid : table.IsValid) (h : table.Writes records) :
    ofRecords records = .ok table := by
  have hread : List.Forall₂ (flip fun record op => Record.read record = .ok op)
      table.rows records :=
    ((List.forall₂_and_left ..).2 ⟨hvalid, h⟩).imp fun _ _ h => Record.read_of_writes h.1 h.2
  exact ofRecords_eq_ok.2 hread.flip

end OperatorTable
end CaretQuery
