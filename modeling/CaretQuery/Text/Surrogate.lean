/-!
# Lone surrogates

A surrogate that is not half of a pair is no character, and a text that holds one cannot be written
as UTF-8. On the command line only JSON brings such texts in, since an escape may name any
surrogate. In a text the code points U+DD800 to U+DDFFF, to which no characters are assigned, stand
for the lone surrogates.
-/
namespace CaretQuery.Text

/-- The distance from a surrogate to the character that stands for it. -/
def surrogateShift : Nat := 0xD0000

/-- The character that stands for a lone surrogate. -/
def loneSurrogate (n : Nat) : Char := Char.ofNat (surrogateShift + n)

def isLone (c : Char) : Bool := 0xDD800 ≤ c.toNat && c.toNat ≤ 0xDDFFF

/-- The code point of a character, or of the surrogate that it stands for. -/
def codePoint (c : Char) : Nat := if isLone c then c.toNat - surrogateShift else c.toNat

/-- No lone surrogate is in a text. -/
def isEncodable (s : String) : Bool := s.toList.all fun c => !isLone c

@[simp] theorem isEncodable_append (a b : String) :
    isEncodable (a ++ b) = (isEncodable a && isEncodable b) := by
  simp [isEncodable]

end CaretQuery.Text
