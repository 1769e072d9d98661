/-!
# Similar words

Two words are compared by the characters that they have in common: those of the longest common piece
and, on either side of it, those that the remaining parts have in common. A word is close to
another when these characters are at least three fifths of both words.
-/
namespace CaretQuery.Text

/-- A piece that two words have in common: where it starts in each, and its length. -/
structure CommonPiece where
  left : Nat
  right : Nat
  size : Nat
  deriving DecidableEq, Repr

/-- The length of the longest common beginning. -/
def commonBeginning : List Char → List Char → Nat
  | a :: as, b :: bs => if a = b then commonBeginning as bs + 1 else 0
  | _, _ => 0

/-- The longest common piece; of several the first in the first word, then in the second. -/
def longestPiece (as bs : List Char) : CommonPiece :=
  let pieces := (List.range as.length).flatMap fun i =>
    (List.range bs.length).map fun j =>
      CommonPiece.mk i j (commonBeginning (as.drop i) (bs.drop j))
  pieces.foldl (fun best piece => if best.size < piece.size then piece else best) ⟨0, 0, 0⟩

/-- How many characters two words have in common. The first argument bounds the number of cuts. -/
def commonCount : Nat → List Char → List Char → Nat
  | 0, _, _ => 0
  | cuts + 1, as, bs =>
    let piece := longestPiece as bs
    if piece.size = 0 then 0
    else
      commonCount cuts (as.take piece.left) (bs.take piece.right) + piece.size +
        commonCount cuts (as.drop (piece.left + piece.size)) (bs.drop (piece.right + piece.size))

/-- A candidate with the characters that it has in common with a word, and those of both. -/
structure Closeness where
  candidate : String
  common : Nat
  total : Nat

namespace Closeness

def of (word candidate : String) : Closeness :=
  let cs := candidate.toList
  ⟨candidate, commonCount (cs.length + 1) cs word.toList, cs.length + word.length⟩

def isClose (c : Closeness) : Bool := 3 * c.total ≤ 10 * c.common

/-- The closer candidate comes first; of equally close ones the last in alphabetical order. -/
def before (c d : Closeness) : Bool :=
  if c.common * d.total = d.common * c.total then d.candidate ≤ c.candidate
  else d.common * c.total < c.common * d.total

end Closeness

def maxSimilar : Nat := 3

/-- The candidates closest to a word, in alphabetical order. -/
def similarWords (word : String) (candidates : List String) : List String :=
  let close := (candidates.map (Closeness.of word)).filter Closeness.isClose
  (((close.mergeSort Closeness.before).take maxSimilar).map Closeness.candidate).mergeSort
    fun a b => a ≤ b

end CaretQuery.Text
