import CaretQuery.Number.Double

/-!
# The shortest decimal of a double

A double stands for every real number that rounds to it. Its text is the decimal in that interval
with the fewest digits, the nearest such one if there are several, and the even one of two that
are equally near. Numbers from `1e-4` up to but not including `1e16` are written positionally,
all others with an exponent of at least two digits.
-/
namespace CaretQuery.Number

/-- The exponent of the leading decimal digit of a positive quotient. -/
def leadingDigit (num den : Nat) : Int :=
  let guess := leadingBit num den * 30103 / 100000
  let reaches (k : Int) : Bool := den * Nat.pow 10 k.toNat ≤ num * Nat.pow 10 (-k).toNat
  if reaches (guess + 1) then guess + 1 else if reaches guess then guess else guess - 1

/-- A positive number in units of `10 ^ exponent`, between the ends of an interval. All four are
kept in the same unit `1 / den`. -/
structure Target where
  low : Nat
  value : Nat
  high : Nat
  den : Nat
  closed : Bool

/-- The interval of reals that round to `significand * 2 ^ exponent`, ends included exactly when the
significand is even. Below a power of two the neighbour is only half as far. -/
def Target.ofDouble (significand : Nat) (exponent : Int) : Target :=
  let gap := if significand = Nat.pow 2 52 ∧ minExponent < exponent then 1 else 2
  let unit (n : Nat) := n * Nat.pow 2 (exponent - 2).toNat
  { low := unit (4 * significand - gap)
    value := unit (4 * significand)
    high := unit (4 * significand + 2)
    den := Nat.pow 2 (2 - exponent).toNat
    closed := significand % 2 = 0 }

/-- Whether `digits * 10 ^ exponent` lies in the interval. -/
def Target.holds (t : Target) (digits : Nat) (exponent : Int) : Bool :=
  let point := digits * Nat.pow 10 exponent.toNat * t.den
  let scale := Nat.pow 10 (-exponent).toNat
  if t.closed then t.low * scale ≤ point && point ≤ t.high * scale
  else t.low * scale < point && point < t.high * scale

/-- The point of the grid of multiples of `10 ^ exponent` that stands for the target, if one of the
two points next to its value lies in the interval. -/
def Target.onGrid? (t : Target) (exponent : Int) : Option Nat :=
  let num := t.value * Nat.pow 10 (-exponent).toNat
  let den := t.den * Nat.pow 10 exponent.toNat
  let below := num / den
  let nearest := roundDiv num den
  let other := if nearest = below then below + 1 else below
  if t.holds nearest exponent then some nearest
  else if t.holds other exponent then some other
  else none

/-- Tries grids of one more digit each until one holds a point of the interval. -/
def Target.search (t : Target) (leading : Int) : Nat → Nat → Nat × Int
  | 0, count => (roundDiv t.value t.den, leading - count)
  | tries + 1, count =>
    let exponent := leading - count
    match t.onGrid? exponent with
    | some digits => (digits, exponent)
    | none => t.search leading tries (count + 1)

def dropZeros : Nat → Nat → Int → Nat × Int
  | 0, digits, exponent => (digits, exponent)
  | fuel + 1, digits, exponent =>
    if digits % 10 = 0 then dropZeros fuel (digits / 10) (exponent + 1) else (digits, exponent)

/-- The digits of the shortest decimal of a positive double, and the exponent of the last one. -/
def shortest (significand : Nat) (exponent : Int) : Nat × Int :=
  let t := Target.ofDouble significand exponent
  let (digits, exponent) := t.search (leadingDigit t.value t.den) 18 0
  dropZeros 18 digits exponent

def zeros (n : Nat) : List Char := List.replicate n '0'

/-- `0.DIGITS * 10 ^ point` written with a point and without an exponent. -/
def positional (digits : List Char) (point : Int) : List Char :=
  if point ≤ 0 then '0' :: '.' :: zeros (-point).toNat ++ digits
  else if digits.length ≤ point.toNat then
    digits ++ zeros (point.toNat - digits.length) ++ ['.', '0']
  else digits.take point.toNat ++ '.' :: digits.drop point.toNat

/-- `0.DIGITS * 10 ^ point` written with one digit before the point and an exponent. -/
def scientific (digits : List Char) (point : Int) : List Char :=
  let exponent := point - 1
  let size := Nat.toDigits 10 exponent.natAbs
  let fraction := match digits.drop 1 with
    | [] => []
    | rest => '.' :: rest
  digits.take 1 ++ fraction ++
    'e' :: (if exponent < 0 then '-' else '+') :: (if size.length < 2 then '0' :: size else size)

def Double.magnitudeText (significand : Nat) (exponent : Int) : List Char :=
  if significand = 0 then ['0', '.', '0']
  else
    let (value, last) := shortest significand exponent
    let digits := Nat.toDigits 10 value
    let point := last + digits.length
    if -3 ≤ point ∧ point ≤ 16 then positional digits point else scientific digits point

/-- The text of a double. -/
def Double.text : Double → String
  | .nan => "nan"
  | .infinite negative => if negative then "-inf" else "inf"
  | .finite negative significand exponent =>
    String.ofList ((if negative then ['-'] else []) ++ magnitudeText significand exponent)

end CaretQuery.Number
