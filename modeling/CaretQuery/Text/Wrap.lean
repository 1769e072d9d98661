import CaretQuery.Text.Width

/-!
# Wrapping

A line that is too wide for its columns is broken before words. A word is a run of characters that
are not blank, with the blanks after it; blanks at the start of a line belong to its first word, and
blanks at the end of a word need no room. A word that is wider than the columns is either continued
on further lines or left whole on a line of its own.
-/
namespace CaretQuery.Text

/-- Cuts a text before each character that is not blank and follows a blank one. -/
def cutAfterBlanks : List Char → List (List Char)
  | [] => []
  | c :: rest =>
    match cutAfterBlanks rest with
    | (d :: piece) :: pieces =>
      if isBlank c && !isBlank d then [c] :: (d :: piece) :: pieces
      else (c :: d :: piece) :: pieces
    | _ => [[c]]

def words (line : List Char) : List (List Char) :=
  match cutAfterBlanks (trimLeft line) with
  | [] => [line]
  | word :: more => (line.takeWhile isBlank ++ word) :: more

/-- Puts clusters together into pieces that fit into some columns, the first of them after a piece
that is begun and takes `used` columns. -/
def fillPieces (columns : Nat) (piece : List Char) (used : Nat) : List (List Char) →
    List (List Char)
  | [] => [piece]
  | cluster :: rest =>
    if used + width cluster ≤ columns then
      fillPieces columns (piece ++ cluster) (used + width cluster) rest
    else piece :: fillPieces columns cluster (width cluster) rest

/-- The lines on which a word stands that is begun on a new line. -/
def wordLines (folds : Bool) (columns : Nat) (word : List Char) : List (List Char) :=
  if folds && columns < width (trimRight word) then fillPieces columns [] 0 (clusters word)
  else [word]

/-- Sets words on the lines after and including one that is begun and takes `used` columns. -/
def setWords (folds : Bool) (columns : Nat) (line : List Char) (used : Nat) :
    List (List Char) → List (List Char)
  | [] => [line]
  | word :: rest =>
    if used + width (trimRight word) ≤ columns then
      setWords folds columns (line ++ word) (used + width word) rest
    else
      let lines := wordLines folds columns word
      let full := if line.isEmpty then lines.dropLast else line :: lines.dropLast
      let last := lines.getLastD []
      full ++ setWords folds columns last (width last) rest

/-- The lines on which a line of text stands in some columns. -/
def wrap (folds : Bool) (columns : Nat) (line : List Char) : List (List Char) :=
  setWords folds columns [] 0 (words line)

/-- A line cut to some columns, with an ellipsis for what is cut off. Blanks at its end are dropped
first, as many as it has characters too many. -/
def ellipsize (columns : Nat) (line : List Char) : List Char :=
  let blanks := line.length - (trimRight line).length
  let kept := line.take (line.length - min blanks (line.length - columns))
  if width kept ≤ columns then kept else takeColumns (columns - 1) kept ++ ['…']

end CaretQuery.Text
