import CaretQuery.Calendar
import Mathlib

/-! # Decimal digits in text order

As many digits stand in text order exactly as the numbers that they write, and
the leading digits of a number write a quotient of it. So texts that start with
equally many digits compare by the numbers first, and by what follows second.
-/
namespace CaretQuery

/-- Texts compare by their beginnings first if these have the same length. -/
theorem append_lt_append_iff {as bs xs ys : List Char} (h : as.length = bs.length) :
    as ++ xs < bs ++ ys ↔ as < bs ∨ as = bs ∧ xs < ys := by
  induction as generalizing bs with
  | nil =>
    obtain rfl := List.length_eq_zero_iff.1 h.symm
    simp
  | cons a as ih =>
    obtain ⟨b, bs, rfl⟩ := List.exists_cons_of_length_eq_add_one h.symm
    rw [List.cons_append, List.cons_append, List.cons_lt_cons_iff, List.cons_lt_cons_iff,
      ih (Nat.succ.inj h), List.cons.injEq]
    tauto

theorem mul_add_lt_mul_add_iff {b d e j k : Nat} (hj : j < b) (hk : k < b) :
    b * d + j < b * e + k ↔ d < e ∨ d = e ∧ j < k := by
  rcases lt_trichotomy d e with hlt | rfl | hgt
  · have := Nat.mul_le_mul_left b hlt
    rw [Nat.mul_succ] at this
    omega
  · omega
  · have := Nat.mul_le_mul_left b hgt
    rw [Nat.mul_succ] at this
    omega

/-- The digits write the number, perhaps with leading zeros. -/
structure IsDecimal (cs : List Char) (n : Nat) : Prop where
  digits : ∀ c ∈ cs, c.isDigit = true
  value : Nat.ofDigitChars 10 cs 0 = n

namespace IsDecimal

variable {as bs cs : List Char} {m n : Nat}

theorem exists_cons {c : Char} (h : IsDecimal (c :: cs) n) :
    ∃ d k, c.toNat = 48 + d ∧ d < 10 ∧ IsDecimal cs k ∧ n = 10 ^ cs.length * d + k := by
  obtain ⟨hdigits, rfl⟩ := h
  obtain ⟨hc, hcs⟩ := List.forall_mem_cons.1 hdigits
  simp only [Char.isDigit, Bool.and_eq_true, decide_eq_true_eq, ge_iff_le,
    UInt32.le_iff_toNat_le] at hc
  have hnat : c.toNat = c.val.toNat := rfl
  have hzero : '0'.val.toNat = 48 := rfl
  have hnine : '9'.val.toNat = 57 := rfl
  refine ⟨c.toNat - 48, _, by omega, by omega, ⟨hcs, rfl⟩, ?_⟩
  rw [Nat.ofDigitChars_cons, Nat.ofDigitChars_eq_ofDigitChars_zero, Nat.mul_zero, Nat.zero_add]
  rfl

theorem lt_pow (h : IsDecimal cs n) : n < 10 ^ cs.length := by
  induction cs generalizing n with
  | nil => simp [← h.value]
  | cons c cs ih =>
    obtain ⟨d, k, -, hd, hk, rfl⟩ := h.exists_cons
    calc 10 ^ cs.length * d + k < 10 ^ cs.length * d + 10 ^ cs.length := by
          have := ih hk
          omega
      _ = 10 ^ cs.length * (d + 1) := by ring
      _ ≤ 10 ^ cs.length * 10 := Nat.mul_le_mul_left _ hd
      _ = 10 ^ (c :: cs).length := by rw [List.length_cons, pow_succ]

/-- As many digits stand in the order of the numbers. -/
theorem lt_iff (ha : IsDecimal as m) (hb : IsDecimal bs n) (h : as.length = bs.length) :
    as < bs ↔ m < n := by
  induction as generalizing bs m n with
  | nil =>
    obtain rfl := List.length_eq_zero_iff.1 h.symm
    simp [← ha.value, ← hb.value]
  | cons a as ih =>
    obtain ⟨b, bs, rfl⟩ := List.exists_cons_of_length_eq_add_one h.symm
    have hlength : as.length = bs.length := Nat.succ.inj h
    obtain ⟨d, j, had, -, hj, rfl⟩ := ha.exists_cons
    obtain ⟨e, k, hbe, -, hk, rfl⟩ := hb.exists_cons
    have hab : a < b ↔ d < e := by
      rw [Char.lt_def, UInt32.lt_iff_toNat_lt, show a.val.toNat = 48 + d from had,
        show b.val.toNat = 48 + e from hbe]
      omega
    have hab' : a = b ↔ d = e := by
      rw [← Char.toNat_inj]
      omega
    rw [List.cons_lt_cons_iff, ih hj hk hlength, hab, hab', hlength,
      mul_add_lt_mul_add_iff (hlength ▸ hj.lt_pow) hk.lt_pow]

theorem eq_iff (ha : IsDecimal as m) (hb : IsDecimal bs n) (h : as.length = bs.length) :
    as = bs ↔ m = n := by
  refine ⟨fun heq => by rw [← ha.value, ← hb.value, heq], fun heq => ?_⟩
  rcases lt_trichotomy as bs with hlt | heq' | hlt
  · exact absurd ((ha.lt_iff hb h).1 hlt) (by omega)
  · exact heq'
  · exact absurd ((hb.lt_iff ha h.symm).1 hlt) (by omega)

theorem append_lt_append_iff (ha : IsDecimal as m) (hb : IsDecimal bs n) (h : as.length = bs.length)
    {xs ys : List Char} : as ++ xs < bs ++ ys ↔ m < n ∨ m = n ∧ xs < ys := by
  rw [CaretQuery.append_lt_append_iff h, ha.lt_iff hb h, ha.eq_iff hb h]

/-- The digits before the last ones write the quotient by a power of ten. -/
theorem dropLast_digits {last : List Char} (h : IsDecimal (cs ++ last) n) :
    IsDecimal cs (n / 10 ^ last.length) := by
  obtain ⟨hdigits, rfl⟩ := h
  obtain ⟨hcs, hlast⟩ := List.forall_mem_append.1 hdigits
  refine ⟨hcs, ?_⟩
  have hrest : Nat.ofDigitChars 10 last 0 < 10 ^ last.length := lt_pow ⟨hlast, rfl⟩
  have hvalue : Nat.ofDigitChars 10 last (Nat.ofDigitChars 10 cs 0) =
      10 ^ last.length * Nat.ofDigitChars 10 cs 0 + Nat.ofDigitChars 10 last 0 :=
    Nat.ofDigitChars_eq_ofDigitChars_zero
  rw [Nat.ofDigitChars_append, hvalue, Nat.mul_add_div (Nat.pow_pos (by decide)),
    Nat.div_eq_of_lt hrest, Nat.add_zero]

end IsDecimal

/-! ## Numbers with and without leading zeros -/

theorem isDecimal_toDigits (n : Nat) : IsDecimal (Nat.toDigits 10 n) n :=
  ⟨fun _ hc => Nat.isDigit_of_mem_toDigits (by decide) (by decide) hc,
    Nat.ofDigitChars_ten_toDigits⟩

theorem isDecimal_padded (width n : Nat) : IsDecimal (padded width n) n := by
  refine ⟨fun c hc => ?_, ?_⟩
  · rcases List.mem_append.1 hc with hzero | hdigit
    · rw [List.eq_of_mem_replicate hzero]
      rfl
    · exact (isDecimal_toDigits n).digits c hdigit
  · rw [padded, Nat.ofDigitChars_append, Nat.ofDigitChars_replicate_zero, Nat.mul_zero,
      (isDecimal_toDigits n).value]

theorem length_padded {width n : Nat} (hwidth : 0 < width) (h : n < 10 ^ width) :
    (padded width n).length = width := by
  have hlength := (Nat.length_toDigits_le_iff (by decide) hwidth).2 h
  rw [padded, List.length_append, List.length_replicate]
  omega

theorem padded_eq_toDigits {width n : Nat} (h : (Nat.toDigits 10 n).length = width) :
    padded width n = Nat.toDigits 10 n := by
  simp [padded, h]

theorem head?_padded {width n : Nat} (h : (Nat.toDigits 10 n).length < width) :
    (padded width n).head? = some '0' := by
  obtain ⟨k, hk⟩ := Nat.exists_eq_add_of_lt h
  have hzeros : width - (Nat.toDigits 10 n).length = k + 1 := by omega
  rw [padded, hzeros, List.replicate_succ]
  rfl

theorem lt_length_toDigits_iff {n k : Nat} (hk : 0 < k) :
    k < (Nat.toDigits 10 n).length ↔ 10 ^ k ≤ n := by
  rw [← not_le, Nat.length_toDigits_le_iff (by decide) hk, not_lt]

end CaretQuery
