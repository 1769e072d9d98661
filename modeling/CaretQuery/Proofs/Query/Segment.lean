import CaretQuery.Operator.Builtin

/-! # The segments of a query

A query is cut into segments by the separator. A segment that holds a test
begins with a field; a plain field name has none of the characters that the
token of an operator can begin with, and only the tokens for less and greater
go on as another token does. This is why a segment can be taken apart again.
-/
namespace CaretQuery

/-! ## Cutting at the separator -/

/-- The text of segments before a list of others: each has the separator behind it. -/
theorem intercalate_append {α : Type} {x : α} {segments rest : List (List α)} (h : rest ≠ []) :
    [x].intercalate (segments ++ rest) = segments.flatMap (· ++ [x]) ++ [x].intercalate rest := by
  induction segments with
  | nil => rfl
  | cons segment segments ih =>
    have hne : segments ++ rest ≠ [] := by simp [h]
    rw [List.cons_append, List.intercalate_cons_of_ne_nil hne, ih, List.flatMap_cons]
    simp only [List.append_assoc]

/-- Segments without the separator can be read off the text. -/
theorem eq_of_intercalate_eq {α : Type} [DecidableEq α] {x : α} {ls ms : List (List α)}
    (hls : ls ≠ []) (hms : ms ≠ []) (hl : ∀ l ∈ ls, x ∉ l) (hm : ∀ m ∈ ms, x ∉ m)
    (h : [x].intercalate ls = [x].intercalate ms) : ls = ms := by
  rw [← List.splitOn_intercalate x hl hls, h, List.splitOn_intercalate x hm hms]

/-! ## Field names -/

def isFieldChar (c : Char) : Bool := c.isLower || c.isDigit || c == '_' || c == '.'

/-- A plain name: lower case letters, digits, underscores and dots. -/
def IsFieldName (s : String) : Prop := s ≠ "" ∧ ∀ c ∈ s.toList, isFieldChar c = true

instance (s : String) : Decidable (IsFieldName s) := inferInstanceAs (Decidable (_ ∧ _))

theorem ne_of_isFieldChar {c d : Char} (hc : isFieldChar c = true) (hd : isFieldChar d = false) :
    c ≠ d := by
  rintro rfl
  exact Bool.noConfusion (hc.symm.trans hd)

theorem IsFieldName.exists_toList {s : String} (h : IsFieldName s) :
    ∃ c cs, s.toList = c :: cs ∧ isFieldChar c = true := by
  cases hs : s.toList with
  | nil => exact absurd (String.toList_eq_nil_iff.1 hs) h.1
  | cons c cs => exact ⟨c, cs, rfl, h.2 c (by simp [hs])⟩

theorem IsFieldName.notMem {s : String} {c : Char} (h : IsFieldName s)
    (hc : isFieldChar c = false) : c ∉ s.toList := fun hmem => ne_of_isFieldChar (h.2 c hmem) hc rfl

/-- A field name ends where the first other character stands. -/
theorem field_append_inj {s t : String} {cs ds : List Char} (hs : IsFieldName s)
    (ht : IsFieldName t) (hcs : ∀ c ∈ cs.head?, isFieldChar c = false)
    (hds : ∀ c ∈ ds.head?, isFieldChar c = false) (h : s.toList ++ cs = t.toList ++ ds) :
    s = t ∧ cs = ds := by
  have hnone {rest : List Char} (hrest : ∀ c ∈ rest.head?, isFieldChar c = false) :
      rest.takeWhile isFieldChar = [] := by
    cases rest with
    | nil => rfl
    | cons c rest => simp [hrest c rfl]
  have htake := congrArg (List.takeWhile isFieldChar) h
  rw [List.takeWhile_append_of_pos hs.2, List.takeWhile_append_of_pos ht.2, hnone hcs, hnone hds,
    List.append_nil, List.append_nil] at htake
  rw [htake] at h
  exact ⟨String.toList_inj.1 htake, List.append_cancel_left h⟩

/-! ## Tokens of the built-in operators -/

/-- A token begins with a character that no field name has. -/
theorem token_head {op : Operator} (hop : op ∈ builtinRows) :
    ∃ c cs, op.token.toList = c :: cs ∧ isFieldChar c = false := by
  have hall : ∀ op ∈ builtinRows, op.token.toList.head?.any fun c => !isFieldChar c := by
    decide +kernel
  have h := hall op hop
  cases htoken : op.token.toList with
  | nil => simp [htoken] at h
  | cons c cs => exact ⟨c, cs, rfl, by simpa [htoken] using h⟩

theorem separator_notMem_token {op : Operator} (hop : op ∈ builtinRows) :
    '^' ∉ op.token.toList := by
  have hall : ∀ op ∈ builtinRows, '^' ∉ op.token.toList := by decide +kernel
  exact hall op hop

/-- The operators whose token is the beginning of another one's. -/
def IsStrict (op : Operator) : Prop := op.name = "-gt" ∨ op.name = "-lt"

instance (op : Operator) : Decidable (IsStrict op) := inferInstanceAs (Decidable (_ ∨ _))

/-- Strict comparisons apart, no token is the beginning of another one. -/
theorem token_prefix {op other : Operator} (hop : op ∈ builtinRows) (hother : other ∈ builtinRows)
    (h : op.token.toList <+: other.token.toList) :
    op = other ∨ IsStrict op ∧ other.token.toList = op.token.toList ++ ['='] := by
  have hall : ∀ op ∈ builtinRows, ∀ other ∈ builtinRows,
      op.token.toList <+: other.token.toList →
      op = other ∨ IsStrict op ∧ other.token.toList = op.token.toList ++ ['='] := by
    decide +kernel
  exact hall op hop other hother h

/-- A token can be told from the value behind it. -/
theorem token_append_inj {op other : Operator} {cs ds : List Char} (hop : op ∈ builtinRows)
    (hother : other ∈ builtinRows) (hcs : IsStrict op → cs.head? ≠ some '=')
    (hds : IsStrict other → ds.head? ≠ some '=')
    (h : op.token.toList ++ cs = other.token.toList ++ ds) : op = other ∧ cs = ds := by
  have hsame : op = other := by
    have hleft : op.token.toList <+: other.token.toList ++ ds := ⟨cs, h⟩
    have hright : other.token.toList <+: other.token.toList ++ ds := ⟨ds, rfl⟩
    -- Of two tokens at the front of one text, one is the beginning of the other.
    rcases List.prefix_or_prefix_of_prefix hleft hright with hp | hp
    · rcases token_prefix hop hother hp with heq | ⟨hstrict, htoken⟩
      · exact heq
      · rw [htoken, List.append_assoc] at h
        have hrest := List.append_cancel_left h
        exact absurd (by rw [hrest]; rfl) (hcs hstrict)
    · rcases token_prefix hother hop hp with heq | ⟨hstrict, htoken⟩
      · exact heq.symm
      · rw [htoken, List.append_assoc] at h
        have hrest := List.append_cancel_left h
        exact absurd (by rw [← hrest]; rfl) (hds hstrict)
  subst hsame
  exact ⟨rfl, List.append_cancel_left h⟩

end CaretQuery
