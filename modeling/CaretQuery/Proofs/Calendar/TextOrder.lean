import CaretQuery.Expression
import CaretQuery.Proofs.Calendar.Digits
import CaretQuery.Proofs.Json.RoundTrip

/-! # Moments in text order

In a query all fields of a moment but the year have two digits, and the year has
as many as it needs. Moments whose years have equally many digits stand in text
order as they do in time; the others stand in the order of the first digits of
the years, whichever comes first. A moment begins with the text of its date only
from the year 1000 on, because a date has four digits for the year.
-/
namespace CaretQuery
namespace DateTime

variable {s t : DateTime} {m n : Nat}

/-! ## Moments in time -/

/-- The fields of a moment, from the one that counts most in the order of time. -/
def fields (t : DateTime) : List Nat :=
  [t.date.year, t.date.month, t.date.day, t.hour, t.minute, t.second, t.microsecond]

/-- The order in time of moments that have no offset, or the same one. -/
def Before (s t : DateTime) : Prop := s.fields < t.fields

instance (s t : DateTime) : Decidable (s.Before t) := inferInstanceAs (Decidable (_ < _))

theorem before_of_year_lt (h : s.date.year < t.date.year) : s.Before t :=
  List.cons_lt_cons_iff.2 (.inl h)

/-- Below the year, no field of a moment that exists needs more than two digits. -/
theorem IsValid.two_digits (h : t.IsValid) :
    t.date.month < 10 ^ 2 ∧ t.date.day < 10 ^ 2 ∧ t.hour < 10 ^ 2 ∧ t.minute < 10 ^ 2 ∧
      t.second < 10 ^ 2 := by
  obtain ⟨⟨-, hmonth, hday⟩, hhour, hminute, hsecond, -⟩ := h
  have hdays : Date.daysIn t.date.year t.date.month ≤ 31 := by
    rw [Date.daysIn]
    split_ifs <;> omega
  omega

/-! ## Texts of moments -/

/-- What follows the year in the form of a query. The empty end gives all fields one shape. -/
def afterYear (t : DateTime) : List Char :=
  '-' :: (padded 2 t.date.month ++ '-' :: (padded 2 t.date.day ++ ' ' :: (padded 2 t.hour ++
    ':' :: (padded 2 t.minute ++ ':' :: (padded 2 t.second ++ [])))))

theorem toList_queryText (t : DateTime) :
    t.queryText.toList = Nat.toDigits 10 t.date.year ++ t.afterYear := by
  simp [queryText, clockText, paddedText, afterYear]

theorem length_afterYear (h : t.IsValid) : t.afterYear.length = 15 := by
  obtain ⟨hmonth, hday, hhour, hminute, hsecond⟩ := h.two_digits
  have htwo {n : Nat} (h : n < 10 ^ 2) : (padded 2 n).length = 2 := length_padded (by decide) h
  simp [afterYear, htwo hmonth, htwo hday, htwo hhour, htwo hminute, htwo hsecond]

theorem length_queryText (h : t.IsValid) :
    t.queryText.length = (Nat.toDigits 10 t.date.year).length + 15 := by
  rw [← String.length_toList, toList_queryText, List.length_append, length_afterYear h]

/-! ## The text of the date -/

theorem toList_dateText (d : Date) :
    d.text.toList = padded 4 d.year ++ '-' :: (padded 2 d.month ++ '-' :: padded 2 d.day) := by
  simp [Date.text, paddedText]

/-- A year that exists has at most four digits, and four from 1000 on. -/
theorem length_year_eq_four_iff (h : t.IsValid) :
    (Nat.toDigits 10 t.date.year).length = 4 ↔ 1000 ≤ t.date.year := by
  obtain ⟨⟨⟨-, hyear⟩, -⟩, -⟩ := h
  have hle : (Nat.toDigits 10 t.date.year).length ≤ 4 :=
    (Nat.length_toDigits_le_iff (by decide) (by decide)).2 (by omega)
  have hlt : 3 < (Nat.toDigits 10 t.date.year).length ↔ 10 ^ 3 ≤ t.date.year :=
    lt_length_toDigits_iff (by decide)
  omega

theorem dateText_isPrefix_iff (h : t.IsValid) :
    t.date.text.toList <+: t.queryText.toList ↔ 1000 ≤ t.date.year := by
  rw [toList_dateText, toList_queryText]
  constructor
  · -- a year of fewer digits starts with a zero in the date, but not in the moment
    rintro ⟨after, hafter⟩
    by_contra hearly
    have hfew : (Nat.toDigits 10 t.date.year).length < 4 := by
      rw [← not_le, Nat.succ_le_iff, lt_length_toDigits_iff (by decide)]
      omega
    have hhead := congrArg List.head? hafter
    rw [List.append_assoc, List.head?_append, head?_padded hfew,
      List.head?_append_of_ne_nil _ Nat.toDigits_ne_nil] at hhead
    exact Json.head?_toDigits h.1.1.1 hhead.symm
  · intro hlate
    rw [padded_eq_toDigits ((length_year_eq_four_iff h).2 hlate)]
    refine ⟨' ' :: (padded 2 t.hour ++ ':' :: (padded 2 t.minute ++ ':' :: padded 2 t.second)), ?_⟩
    simp [afterYear]

/-! ## The order of the texts -/

theorem padded_append_lt_iff (hm : m < 10 ^ 2) (hn : n < 10 ^ 2) {c : Char} {xs ys : List Char} :
    c :: (padded 2 m ++ xs) < c :: (padded 2 n ++ ys) ↔ m < n ∨ m = n ∧ xs < ys := by
  rw [List.cons_lt_cons_self]
  exact (isDecimal_padded 2 m).append_lt_append_iff (isDecimal_padded 2 n)
    (by rw [length_padded (by decide) hm, length_padded (by decide) hn])

/-- Moments of one year stand in text order as they do in time. -/
theorem afterYear_lt_iff (hs : s.IsValid) (ht : t.IsValid) (h : s.microsecond = t.microsecond) :
    s.afterYear < t.afterYear ↔ s.fields.tail < t.fields.tail := by
  obtain ⟨hsmonth, hsday, hshour, hsminute, hssecond⟩ := hs.two_digits
  obtain ⟨htmonth, htday, hthour, htminute, htsecond⟩ := ht.two_digits
  rw [afterYear, afterYear, padded_append_lt_iff hsmonth htmonth, padded_append_lt_iff hsday htday,
    padded_append_lt_iff hshour hthour, padded_append_lt_iff hsminute htminute,
    padded_append_lt_iff hssecond htsecond]
  simp [fields, List.cons_lt_cons_iff, h]

/-- Years with equally many digits stand in text order as they do in time. -/
theorem queryText_lt_iff_before (hs : s.IsValid) (ht : t.IsValid)
    (hmicro : s.microsecond = t.microsecond) (h : s.queryText.length = t.queryText.length) :
    s.queryText < t.queryText ↔ s.Before t := by
  rw [length_queryText hs, length_queryText ht] at h
  rw [String.lt_iff_toList_lt, toList_queryText, toList_queryText,
    (isDecimal_toDigits _).append_lt_append_iff (isDecimal_toDigits _) (by omega),
    afterYear_lt_iff hs ht hmicro, Before, fields, fields, List.cons_lt_cons_iff]
  rfl

theorem hyphen_lt_of_isDigit {c : Char} (h : c.isDigit = true) : '-' < c := by
  simp only [Char.isDigit, Bool.and_eq_true, decide_eq_true_eq, ge_iff_le] at h
  exact lt_of_lt_of_le (by decide) h.1

/-- A year with fewer digits is compared with the first digits of the other. -/
theorem queryText_lt_iff_year_le (hs : s.IsValid) (ht : t.IsValid)
    (h : s.queryText.length < t.queryText.length) :
    s.queryText < t.queryText ↔
      s.date.year ≤ t.date.year / 10 ^ (t.queryText.length - s.queryText.length) := by
  rw [length_queryText hs, length_queryText ht] at h ⊢
  obtain ⟨first, last, hsplit, hfirst⟩ : ∃ first last,
      Nat.toDigits 10 t.date.year = first ++ last ∧
        first.length = (Nat.toDigits 10 s.date.year).length :=
    ⟨_, _, (List.take_append_drop (Nat.toDigits 10 s.date.year).length _).symm,
      List.length_take_of_le (by omega)⟩
  have hdecimal : IsDecimal (first ++ last) t.date.year := hsplit ▸ isDecimal_toDigits t.date.year
  rw [hsplit, List.length_append, hfirst] at h ⊢
  -- where the shorter year ends, its text goes on with a character below all digits
  have hless : s.afterYear < last ++ t.afterYear := by
    obtain ⟨c, cs, rfl⟩ := List.exists_cons_of_length_pos (show 0 < last.length by omega)
    exact List.cons_lt_cons_iff.2 (.inl (hyphen_lt_of_isDigit (hdecimal.digits c (by simp))))
  rw [String.lt_iff_toList_lt, toList_queryText, toList_queryText, hsplit, List.append_assoc,
    (isDecimal_toDigits _).append_lt_append_iff hdecimal.dropLast_digits hfirst.symm,
    and_iff_left hless, ← Nat.le_iff_lt_or_eq, Nat.add_sub_add_right, Nat.add_sub_cancel_left]

theorem before_of_length_lt (hs : s.IsValid) (ht : t.IsValid)
    (h : s.queryText.length < t.queryText.length) : s.Before t := by
  rw [length_queryText hs, length_queryText ht] at h
  have hfew : (Nat.toDigits 10 s.date.year).length < (Nat.toDigits 10 t.date.year).length := by
    omega
  refine before_of_year_lt ?_
  have hyear := (lt_length_toDigits_iff Nat.length_toDigits_pos).1 hfew
  have := (isDecimal_toDigits s.date.year).lt_pow
  omega

/-! ## Bounds of comparisons -/

/-- Every moment has a text, which begins with that of its date, and has 19
characters, exactly from the year 1000 on. Two texts of the same length stand in
the order of time; of two other ones the shorter is that of the earlier moment,
but comes first only if its year is at most the number of as many first digits
of the later year. Comparisons receive the texts as they are. -/
theorem formatValue_outcome (hs : s.IsValid) (ht : t.IsValid) (field : Value) (c : Comparison) :
    ∃ day first second, formatValue (.date s.date) = .ok day ∧
      formatValue (.datetime s) = .ok first ∧ formatValue (.datetime t) = .ok second ∧
      (day.toList <+: first.toList ↔ 1000 ≤ s.date.year) ∧
      (first.length = 19 ↔ 1000 ≤ s.date.year) ∧
      (s.microsecond = 0 → t.microsecond = 0 →
        (first.length = second.length → (s.Before t ↔ first < second)) ∧
        (first.length < second.length → s.Before t ∧
          (first < second ↔
            s.date.year ≤ t.date.year / 10 ^ (second.length - first.length)))) ∧
      Expr.comparing field c (.datetime s) = .ok (.compare field c first) ∧
      Expr.liesBetween field (.datetime s) (.datetime t) =
        .ok (.compare field .between (first ++ "@" ++ second)) := by
  have hwidth : s.queryText.length = 19 ↔ 1000 ≤ s.date.year := by
    rw [length_queryText hs, ← length_year_eq_four_iff hs]
    omega
  refine ⟨s.date.text, _, _, rfl, rfl, rfl, dateText_isPrefix_iff hs, hwidth, ?_, rfl, rfl⟩
  intro hsmicro htmicro
  have hmicro : s.microsecond = t.microsecond := hsmicro.trans htmicro.symm
  exact ⟨fun h => (queryText_lt_iff_before hs ht hmicro h).symm,
    fun h => ⟨before_of_length_lt hs ht h, queryText_lt_iff_year_le hs ht h⟩⟩

/-- The first moment of a day. -/
def midnight (d : Date) : DateTime := ⟨d, 0, 0, 0, 0, none⟩

theorem formatValue_outcome_turnOfMillennium :
    (midnight ⟨1999, 12, 31⟩).IsValid ∧ (midnight ⟨2000, 1, 1⟩).IsValid ∧
      "1999-12-31".toList <+: "1999-12-31 00:00:00".toList ∧
      (midnight ⟨1999, 12, 31⟩).Before (midnight ⟨2000, 1, 1⟩) ∧
      "1999-12-31 00:00:00" < "2000-01-01 00:00:00" := by
  have hs : (midnight ⟨1999, 12, 31⟩).IsValid := by decide
  have ht : (midnight ⟨2000, 1, 1⟩).IsValid := by decide
  obtain ⟨day, first, second, hday, hfirst, hsecond, hstart, -, horder, -⟩ :=
    formatValue_outcome hs ht (.str "opened_at") .ge
  obtain rfl : "1999-12-31" = day := Except.ok.inj hday
  obtain rfl : "1999-12-31 00:00:00" = first := Except.ok.inj hfirst
  obtain rfl : "2000-01-01 00:00:00" = second := Except.ok.inj hsecond
  have hbefore : (midnight ⟨1999, 12, 31⟩).Before (midnight ⟨2000, 1, 1⟩) := by decide
  obtain ⟨hsame, -⟩ := horder rfl rfl
  exact ⟨hs, ht, hstart.2 (by decide), hbefore, (hsame (by decide)).1 hbefore⟩

/-- Before the year 1000 a moment does not begin with its date, and may follow a later one. -/
theorem formatValue_firstMillennium :
    (midnight ⟨999, 3, 4⟩).IsValid ∧ (midnight ⟨1000, 1, 1⟩).IsValid ∧
      formatValue (.date ⟨999, 3, 4⟩) = .ok "0999-03-04" ∧
      formatValue (.datetime (midnight ⟨999, 3, 4⟩)) = .ok "999-03-04 00:00:00" ∧
      formatValue (.datetime (midnight ⟨1000, 1, 1⟩)) = .ok "1000-01-01 00:00:00" ∧
      ¬ "0999-03-04".toList <+: "999-03-04 00:00:00".toList ∧
      (midnight ⟨999, 3, 4⟩).Before (midnight ⟨1000, 1, 1⟩) ∧
      ¬ "999-03-04 00:00:00" < "1000-01-01 00:00:00" :=
  ⟨by decide, by decide, rfl, rfl, rfl, by decide, by decide, by decide⟩

end DateTime
end CaretQuery
