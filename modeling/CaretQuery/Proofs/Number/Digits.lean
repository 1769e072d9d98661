import CaretQuery.Value.Text
import Mathlib

/-! # Integers that can be written

An integer has a text as long as it is below the power of ten with as many
zeros as there may be digits. A power of ten has one digit more than zeros.
-/
namespace CaretQuery.Number

variable {n : Int}

theorem isConvertible_iff : isConvertible n = true ↔ n.natAbs < 10 ^ maxDigits := by
  rw [isConvertible, decide_eq_true_iff]
  exact Nat.length_toDigits_le_iff (by decide) (by decide)

theorem isConvertible_ten_pow_iff (k : Nat) : isConvertible (10 ^ k) = true ↔ k < maxDigits := by
  have hbase : Int.natAbs 10 = 10 := rfl
  rw [isConvertible_iff, Int.natAbs_pow, hbase, Nat.pow_lt_pow_iff_right (by decide)]

/-- A power of ten with more zeros than there may be digits. -/
def longInteger : Int := 10 ^ 5000

theorem isWritable_longInteger : (Value.int longInteger).isWritable = false := by
  have hlong : ¬isConvertible longInteger = true := by
    rw [longInteger, isConvertible_ten_pow_iff]
    decide
  rw [Value.isWritable, Bool.eq_false_iff]
  exact hlong

end CaretQuery.Number
