import CaretQuery.Proofs.Expression.Spelling
import CaretQuery.Proofs.Filter.Outcome
import CaretQuery.Proofs.Json.RoundTrip
import CaretQuery.Proofs.Sort.Outcome

/-! # Clauses made of texts

Clauses that are read from JSON hold texts only, in sequences of any depth. Such
a clause is a text itself or a sequence of items, and whatever a message quotes
of it stands on one line. All of it can be written, so no integer ends a call
that is made on such clauses.
-/
namespace CaretQuery

open Json (IsLine isLine_cons isLine_append isLine_intercalate)

/-- A text, or a sequence that holds texts only. -/
inductive HoldsTexts : Value → Prop
  | str (s : String) : HoldsTexts (.str s)
  | list {items : List Value} (hitems : ∀ item ∈ items, HoldsTexts item) :
      HoldsTexts (.list items)
  | tuple {items : List Value} (hitems : ∀ item ∈ items, HoldsTexts item) :
      HoldsTexts (.tuple items)

variable {v clause : Value} {items : List Value} {fault : Fault} {a b : String}

/-! ## Clauses -/

namespace CommandLine

mutual

theorem holdsTexts_of_coerceClauses : ∀ {json clauses : Json},
    coerceClauses json = .ok clauses → HoldsTexts clauses.toValue
  | .array items, clauses, h => by
    obtain ⟨read, hread, rfl⟩ := coerceClauses_array_eq_ok.1 h
    rw [Json.toValue]
    exact .list (holdsTexts_of_coerceItems hread)
  | .str s, clauses, h => by
    obtain rfl := Except.ok.inj h
    exact .str s
  | .bool b, clauses, h => by
    obtain rfl := Except.ok.inj h
    exact .str _
  | .int n, clauses, h => by
    obtain rfl := Except.ok.inj h
    exact .str _
  | .float x, clauses, h => by
    obtain rfl := Except.ok.inj h
    exact .str _

theorem holdsTexts_of_coerceItems : ∀ {items read : List Json},
    coerceItems items = .ok read → ∀ v ∈ Json.toValues read, HoldsTexts v
  | [], read, h => by
    obtain rfl := Except.ok.inj h
    exact List.forall_mem_nil _
  | item :: items, read, h => by
    obtain ⟨first, rest, hfirst, hrest, rfl⟩ := coerceItems_cons_eq_ok.1 h
    rw [Json.toValues, List.forall_mem_cons]
    exact ⟨holdsTexts_of_coerceClauses hfirst, holdsTexts_of_coerceItems hrest⟩

end

end CommandLine

theorem holdsTexts_of_mem_normalizeClauses (h : HoldsTexts v)
    (hclause : clause ∈ normalizeClauses v) : HoldsTexts clause := by
  have hsequence {w : Value} {items : List Value} (hitems : ∀ item ∈ items, HoldsTexts item)
      (hw : normalizeClauses w = normalizeClauses (.list items))
      (hmem : clause ∈ normalizeClauses w) : HoldsTexts clause := by
    rw [hw] at hmem
    cases items with
    | nil => cases hmem
    | cons first rest =>
      simp only [normalizeClauses, Value.items?] at hmem
      split at hmem
      · obtain rfl := List.mem_singleton.1 hmem
        exact .tuple hitems
      · exact hitems clause hmem
  cases h with
  | str s =>
    obtain rfl := List.mem_singleton.1 hclause
    exact .str s
  | list hitems => exact hsequence hitems rfl hclause
  | @tuple items hitems =>
    have htuple : normalizeClauses (.tuple items) = normalizeClauses (.list items) := by
      cases items <;> rfl
    exact hsequence hitems htuple hclause

theorem holdsTexts_of_mem_clauseItems (h : HoldsTexts clause) :
    ∀ item ∈ clauseItems clause, HoldsTexts item := by
  cases h with
  | str s => exact List.forall_mem_singleton.2 (.str s)
  | list hitems => exact hitems
  | tuple hitems => exact hitems

/-- All clauses of a value hold texts only. -/
def ClausesHoldTexts (v : Value) : Prop := ∀ clause ∈ normalizeClauses v, HoldsTexts clause

theorem clausesHoldTexts_none : ClausesHoldTexts .none := List.forall_mem_nil _

theorem HoldsTexts.clauses (h : HoldsTexts v) : ClausesHoldTexts v :=
  fun _ => holdsTexts_of_mem_normalizeClauses h

/-! ## Nothing that cannot be written -/

theorem HoldsTexts.isWritable (h : HoldsTexts v) : v.isWritable = true := by
  induction h with
  | str s => exact Value.isWritable_str s
  | list hitems ih => simpa [Value.isWritable] using ih
  | tuple hitems ih => simpa [Value.isWritable] using ih

/-- Of items that hold texts only it is always their own fault that is raised. -/
theorem Raises.refused_of_texts {table : OperatorTable} {last : Bool}
    (h : Raises table last items fault) (hitems : ∀ item ∈ items, HoldsTexts item) :
    Refused table last items fault := by
  cases h with
  | refused hrefused hlegible => exact hrefused
  | longInteger hshown hv => cases (hitems _ hshown.mem).isWritable.symm.trans hv

theorem SortRaises.unsortable_of_texts (h : SortRaises items fault)
    (hitems : ∀ item ∈ items, HoldsTexts item) : Unsortable items fault := by
  cases h with
  | unsortable hunsortable hlegible => exact hunsortable
  | longInteger hcount hmem hv => cases (hitems _ hmem).isWritable.symm.trans hv

/-- The error of a filter of texts is the fault of a clause behind ones that compile. -/
theorem ClausesHoldTexts.refused_of_compileFilter {table : OperatorTable} {e : BuildError}
    (hv : ClausesHoldTexts v) (h : compileFilter table v = .error e) :
    ∃ i clause fault, (normalizeClauses v)[i]? = some clause ∧
      Refused table (i + 1 == (normalizeClauses v).length) (clauseItems clause) fault ∧
      (∀ j < i, CompilesAt table (normalizeClauses v) j) ∧ e = ⟨fault, clause, some i⟩ := by
  obtain ⟨i, clause, fault, hclause, hraises, hbefore, rfl⟩ := raises_of_compileFilter h
  have hitems := holdsTexts_of_mem_clauseItems (hv clause (List.mem_of_getElem? hclause))
  exact ⟨i, clause, fault, hclause, hraises.refused_of_texts hitems, hbefore, rfl⟩

theorem ClausesHoldTexts.unsortable_of_compileSort {e : BuildError} (hv : ClausesHoldTexts v)
    (h : compileSort v = .error e) :
    ∃ i clause fault, (normalizeClauses v)[i]? = some clause ∧
      Unsortable (clauseItems clause) fault ∧
      (∀ j < i, ∀ earlier, (normalizeClauses v)[j]? = some earlier →
        SortCompiles (clauseItems earlier)) ∧ e = ⟨fault, clause, some i⟩ := by
  obtain ⟨i, clause, fault, hclause, hraises, hbefore, rfl⟩ := sortRaises_of_compileSort h
  have hitems := holdsTexts_of_mem_clauseItems (hv clause (List.mem_of_getElem? hclause))
  exact ⟨i, clause, fault, hclause, hraises.unsortable_of_texts hitems, hbefore, rfl⟩

theorem Refused.ne_longInteger {table : OperatorTable} {last : Bool}
    (h : Refused table last items fault) : fault ≠ .longInteger := by
  cases h <;> nofun

theorem Unsortable.ne_longInteger (h : Unsortable items fault) : fault ≠ .longInteger := by
  cases h <;> nofun

/-- A query of clauses that hold texts only is never ended by an integer. -/
theorem ne_longInteger_of_advancedQuery {table : OperatorTable} {filter sort : Value}
    {e : BuildError} (hfilter : ClausesHoldTexts filter) (hsort : ClausesHoldTexts sort)
    (h : advancedQuery table filter sort = .error e) : e.fault ≠ .longInteger := by
  rw [advancedQuery] at h
  cases hgiven : sort.isNone with
  | true =>
    rw [if_pos hgiven] at h
    cases h
    intro hfault
    cases hfault
  | false =>
    rw [if_neg (by simp [hgiven])] at h
    cases hfragments : compileFilter table filter with
    | error other =>
      rw [hfragments] at h
      cases h
      obtain ⟨_, _, _, -, hrefused, -, rfl⟩ := hfilter.refused_of_compileFilter hfragments
      exact hrefused.ne_longInteger
    | ok fragments =>
      cases hkeys : compileSort sort with
      | ok keys =>
        rw [hfragments, hkeys] at h
        cases h
      | error other =>
        rw [hfragments, hkeys] at h
        cases h
        obtain ⟨_, _, _, -, hunsortable, -, rfl⟩ := hsort.unsortable_of_compileSort hkeys
        exact hunsortable.ne_longInteger

/-! ## Quoted texts -/

theorem isLine_hexDigits (width n : Nat) : IsLine (Text.hexDigits width n) := by
  have hdigit : ∀ n < 16, 32 ≤ (Text.hexDigit n).toNat := by decide
  induction width generalizing n with
  | zero => simp [Text.hexDigits, IsLine]
  | succ width ih =>
    rw [Text.hexDigits, isLine_append]
    exact ⟨ih _, by simpa [IsLine] using hdigit (n % 16) (by omega)⟩

theorem isLine_escape {quote : Char} (hquote : 32 ≤ quote.toNat) (c : Char) :
    IsLine (Text.escapeChar quote c) := by
  rw [Text.escapeChar]
  split
  next h =>
    rcases h with rfl | rfl
    · simpa [IsLine] using hquote
    · simp [IsLine]
  iterate 3
    split
    · simp [IsLine]
  split
  next hprintable =>
    rw [isLine_cons]
    refine ⟨?_, List.forall_mem_nil _⟩
    rw [Text.isPrintable] at hprintable
    split at hprintable
    next => simpa using hprintable
    next hlarge => omega
  next =>
    rw [Text.codeEscape]
    split
    · simpa [isLine_cons] using isLine_hexDigits 2 _
    · split
      · simpa [isLine_cons] using isLine_hexDigits 4 _
      · simpa [isLine_cons] using isLine_hexDigits 8 _

theorem isLine_quotedText (s : String) : IsLine (Text.quoted s).toList := by
  have hquote : 32 ≤ (Text.quoteFor s.toList).toNat := by
    rw [Text.quoteFor]
    split <;> decide
  rw [Text.quoted, String.toList_ofList, Text.quotedChars, List.cons_append, isLine_cons,
    isLine_append]
  refine ⟨hquote, ?_, by simpa [IsLine] using hquote⟩
  intro c hc
  obtain ⟨d, -, hcd⟩ := List.mem_flatMap.1 hc
  exact isLine_escape hquote d c hcd

theorem isLine_tupleText {texts : List String} (h : ∀ text ∈ texts, IsLine text.toList) :
    IsLine (tupleText texts).toList := by
  have hopen : IsLine "(".toList := by simp [IsLine]
  have hclose : IsLine ")".toList := by simp [IsLine]
  have hcomma : IsLine ",)".toList := by simp [IsLine]
  rw [tupleText.eq_def]
  split
  next text =>
    simp only [String.toList_append, isLine_append]
    exact ⟨⟨hopen, h text List.mem_cons_self⟩, hcomma⟩
  next =>
    simp only [String.toList_append, isLine_append]
    exact ⟨⟨hopen, isLine_intercalate h⟩, hclose⟩

/-- What holds texts only is quoted on one line. -/
theorem HoldsTexts.isLine_quoted (h : HoldsTexts v) : IsLine v.quoted.toList := by
  have hwritten {items : List Value} (ih : ∀ item ∈ items, IsLine item.quoted.toList) :
      ∀ text ∈ writeItems items, IsLine text.toList := by
    rw [writeItems_eq_map, List.forall_mem_map]
    exact ih
  induction h with
  | str s =>
    simpa [Value.quoted, Value.write] using isLine_quotedText s
  | list hitems ih =>
    rw [Value.quoted, Value.write, String.toList_append, String.toList_append, isLine_append,
      isLine_append]
    exact ⟨⟨by simp [IsLine], isLine_intercalate (hwritten ih)⟩, by simp [IsLine]⟩
  | tuple hitems ih =>
    rw [Value.quoted, Value.write]
    exact isLine_tupleText (hwritten ih)

/-! ## Messages -/

theorem isLine_concat (ha : IsLine a.toList) (hb : IsLine b.toList) : IsLine (a ++ b).toList := by
  rw [String.toList_append, isLine_append]
  exact ⟨ha, hb⟩

theorem isLine_tooMany {subject : String} (hsubject : IsLine subject.toList) (count limit : Nat) :
    IsLine (Fault.tooMany subject count limit).toList := by
  have hnumber (n : Nat) : IsLine (toString n).toList := Json.isLine_toString_int n
  have hhas : IsLine " clause has ".toList := by simp [IsLine]
  have hitems : IsLine " items; at most ".toList := by simp [IsLine]
  have hallowed : IsLine " are allowed".toList := by simp [IsLine]
  have htext : Fault.tooMany subject count limit =
      subject ++ " clause has " ++ toString count ++ " items; at most " ++ toString limit ++
        " are allowed" := rfl
  rw [htext]
  exact isLine_concat (isLine_concat (isLine_concat (isLine_concat (isLine_concat hsubject hhas)
    (hnumber count)) hitems) (hnumber limit)) hallowed

/-- The fault of a clause that holds texts only is told on one line. -/
theorem Refused.isLine_message {table : OperatorTable} {last : Bool}
    (h : Refused table last items fault) (hitems : ∀ item ∈ items, HoldsTexts item) :
    IsLine fault.message.toList := by
  have hquoted {item : Value} (hitem : item ∈ items) : IsLine item.quoted.toList :=
    (hitems item hitem).isLine_quoted
  cases h with
  | @unsupportedJoin word hword =>
    have hfirst : IsLine word.quoted.toList := hquoted (by simp)
    refine isLine_concat (isLine_concat (isLine_concat ?_ hfirst) ?_) ?_
    · simp [IsLine]
    · simp [IsLine]
    · simp [IsLine, Join.all, Join.word]
  | trailingJoin j hword hlast =>
    refine isLine_concat (isLine_concat ?_ (isLine_quotedText _)) ?_
    · simp [IsLine]
    · simp [IsLine]
  | @unknownOperator field name values hvalues hname =>
    have hfield : IsLine field.quoted.toList := hquoted (by simp)
    have hsecond : IsLine name.quoted.toList := hquoted (by simp)
    refine isLine_concat (isLine_concat (isLine_concat ?_ hsecond) ?_) hfield
    · simp [IsLine]
    · simp [IsLine]
  | @missingValue field name op hop hname hvalue =>
    have hfield : IsLine field.quoted.toList := hquoted (by simp)
    refine isLine_concat (isLine_concat (isLine_concat (isLine_concat ?_ (isLine_quotedText _)) ?_)
      hfield) ?_
    · simp [IsLine]
    · simp [IsLine]
    · simp [IsLine]
  | tooManyItems hcount => exact isLine_tooMany (by simp [IsLine]) _ _

theorem Unsortable.isLine_message (h : Unsortable items fault)
    (hitems : ∀ item ∈ items, HoldsTexts item) : IsLine fault.message.toList := by
  have hquoted {item : Value} (hitem : item ∈ items) : IsLine item.quoted.toList :=
    (hitems item hitem).isLine_quoted
  cases h with
  | @invalidDirection field word hword =>
    have hfield : IsLine field.quoted.toList := hquoted (by simp)
    have hsecond : IsLine word.quoted.toList := hquoted (by simp)
    refine isLine_concat (isLine_concat (isLine_concat (isLine_concat ?_ hsecond) ?_) hfield) ?_
    · simp [IsLine]
    · simp [IsLine]
    · simp [IsLine]
  | tooManyItems hcount => exact isLine_tooMany (by simp [IsLine]) _ _

end CaretQuery
