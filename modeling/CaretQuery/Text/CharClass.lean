/-!
# Classes of characters

A class is a list of closed ranges of code points. Blank characters are the ones that trimming
removes: the Unicode spaces, the line and paragraph separators, and the control characters
U+0009 to U+000D and U+001C to U+001F.
-/
namespace CaretQuery.Text

/-- Closed ranges of code points, in increasing order. -/
abbrev CharRanges := List (Nat × Nat)

def within (ranges : CharRanges) (c : Char) : Bool :=
  ranges.any fun range => range.1 ≤ c.toNat && c.toNat ≤ range.2

def blankRanges : CharRanges :=
  [(9, 13), (28, 32), (133, 133), (160, 160), (5760, 5760), (8192, 8202), (8232, 8233),
   (8239, 8239), (8287, 8287), (12288, 12288)]

def isBlank (c : Char) : Bool := within blankRanges c

def trimLeft (cs : List Char) : List Char := cs.dropWhile isBlank

def trimRight (cs : List Char) : List Char := (cs.reverse.dropWhile isBlank).reverse

/-- The characters without the blank ones at either end. -/
def trim (cs : List Char) : List Char := trimRight (trimLeft cs)

def trimString (s : String) : String := String.ofList (trim s.toList)

end CaretQuery.Text
