/-!
# Integers and their digits

Integers are turned into decimal digits and back only up to a number of digits. Beyond it they still
are values, but neither have a text nor are read from one.
-/
namespace CaretQuery.Number

/-- Integers of more digits than this are not converted. -/
def maxDigits : Nat := 4300

/-- Whether an integer can be written in decimal digits. -/
def isConvertible (n : Int) : Bool := (Nat.toDigits 10 n.natAbs).length ≤ maxDigits

/-- What is said of an integer with too many digits, with what is known of it. -/
def digitLimitMessage (known : String) : String :=
  s!"Exceeds the limit ({maxDigits} digits) for integer string conversion{known}; " ++
    "use sys.set_int_max_str_digits() to increase the limit"

end CaretQuery.Number
