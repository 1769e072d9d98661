/-!
# Double precision numbers

A double is kept exactly: a sign, a significand below `2 ^ 53` and the exponent of its last bit,
which is at least `-1074`. Every double but the very small ones has a significand of 53 bits. A
decimal is read by rounding its exact quotient once, to the nearest double, ties to the even one.
-/
namespace CaretQuery.Number

inductive Double where
  | nan
  | infinite (negative : Bool)
  | finite (negative : Bool) (significand : Nat) (exponent : Int)
  deriving DecidableEq, Repr

def minExponent : Int := -1074

def maxExponent : Int := 971

/-- The quotient rounded to the nearest number, a half to the even one. -/
def roundDiv (num den : Nat) : Nat :=
  let q := num / den
  let twice := 2 * (num % den)
  if twice < den ∨ (twice = den ∧ q % 2 = 0) then q else q + 1

/-- `num * 2 ^ shift / den` as a pair of a numerator and a denominator. -/
def scaled (num den : Nat) (shift : Int) : Nat × Nat :=
  (num * Nat.pow 2 shift.toNat, den * Nat.pow 2 (-shift).toNat)

/-- The exponent of the leading bit of a positive quotient. -/
def leadingBit (num den : Nat) : Int :=
  let guess : Int := (num.log2 : Int) - (den.log2 : Int)
  let (n, d) := scaled num den (-guess)
  if d ≤ n then guess else guess - 1

/-- The double nearest to a quotient. -/
def Double.ofQuotient (negative : Bool) (num den : Nat) : Double :=
  if num = 0 then .finite negative 0 minExponent
  else
    let exponent := max (leadingBit num den - 52) minExponent
    let (n, d) := scaled num den (-exponent)
    let significand := roundDiv n d
    let (significand, exponent) :=
      if significand = Nat.pow 2 53 then (Nat.pow 2 52, exponent + 1) else (significand, exponent)
    if maxExponent < exponent then .infinite negative
    else .finite negative significand exponent

/-- The double nearest to `digits * 10 ^ exponent`, where `digits` has `count` decimal digits.
Decimals far outside the range of doubles are settled by their magnitude alone. -/
def Double.ofDecimal (negative : Bool) (digits count : Nat) (exponent : Int) : Double :=
  if digits = 0 ∨ exponent + count < -330 then .finite negative 0 minExponent
  else if 310 < exponent then .infinite negative
  else .ofQuotient negative (digits * Nat.pow 10 exponent.toNat) (Nat.pow 10 (-exponent).toNat)

def Double.isZero : Double → Bool
  | .finite _ significand _ => significand == 0
  | _ => false

/-- The integer that a double is, if it is one. -/
def Double.toInt? : Double → Option Int
  | .finite negative significand exponent =>
    let (n, d) := scaled significand 1 exponent
    if n % d = 0 then some (if negative then -(n / d : Nat) else (n / d : Nat)) else none
  | _ => none

/-- Equality of numbers: a NaN differs from every double, and the two zeros are equal. -/
def Double.sameNumber : Double → Double → Bool
  | .infinite a, .infinite b => a == b
  | .finite a m e, .finite b n f =>
    (m == 0 && n == 0) || (a == b && m == n && (m == 0 || e == f))
  | _, _ => false

end CaretQuery.Number
