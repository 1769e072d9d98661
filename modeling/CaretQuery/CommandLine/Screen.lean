import CaretQuery.Json
import CaretQuery.Text.Split
import CaretQuery.Text.Wrap
import CaretQuery.Value.Text

/-!
# The screen

What is shown to people: lines of text, and rows of cells for tables and framed texts. Terminal
control characters are left out, tabs are widened to the next multiple of eight, and blanks at the
end of a line and around a cell do not count.

A frame, and each column of a table, is as wide as its widest line. A tab counts as no column
there, so a line may turn out wider than its cell; it is then broken into several. Blank lines of a
cell are shown.
-/
namespace CaretQuery.CommandLine

inductive Line where
  | text (text : String)
  | row (cells : List String)
  deriving DecidableEq, Repr

/-- A stream holds a text exactly as written, or lines of a screen. -/
inductive Output where
  | plain (text : String)
  | screen (lines : List Line)
  deriving DecidableEq, Repr

namespace Screen

/-- Bell, backspace, vertical tab, form feed and carriage return. -/
def isControl (c : Char) : Bool := [7, 8, 11, 12, 13].contains c.toNat

/-- The characters of a text that are shown. -/
def visible (text : String) : List Char := text.toList.filter fun c => !isControl c

/-- The lines of a text as they are shown. -/
def visibleLines (text : String) : List (List Char) :=
  (Text.splitAt '\n' (visible text)).map Text.expandTabs

/-- A text on a screen. -/
def ofText (text : String) : List Line :=
  (visibleLines text).map fun line => .text (String.ofList (Text.trimRight line))

/-- A text that is written to a stream by itself. -/
def shown (text : String) : String :=
  String.ofList (['\n'].intercalate (visibleLines text)) ++ "\n"

/-! ## Cells -/

/-- A line feed, an information separator, the next-line character, and the separators of lines and
paragraphs. -/
def isLineEnd (c : Char) : Bool := [10, 28, 29, 30, 133, 8232, 8233].contains c.toNat

/-- The width of the widest line of a text. -/
def textWidth (text : String) : Nat :=
  let lines := Text.splitAt '\n' ((visible text).map fun c => if isLineEnd c then '\n' else c)
  (lines.map Text.width).foldl max 0

/-- The lines of a cell that is `width` columns wide. A cell without width has none. -/
def cellLines (fit : Nat → List Char → List (List Char)) (width : Nat) (text : String) :
    List String :=
  if width = 0 then []
  else ((visibleLines text).flatMap (fit width)).map fun line => String.ofList (Text.trim line)

/-- A line of a framed text is broken within words that are too wide for the frame. -/
def fitFrame (width : Nat) (line : List Char) : List (List Char) := Text.wrap true width line

/-- A word that is too wide for its column in a table is cut off. -/
def fitColumn (width : Nat) (line : List Char) : List (List Char) :=
  (Text.wrap false width line).map (Text.ellipsize width)

/-- A framed text. -/
def frame (text : String) : List Line :=
  (cellLines fitFrame (textWidth text) text).map fun line => .row [line]

/-- Fills a cell up to a height. The lines of a header stand at the bottom of their cell, all others
at the top. -/
def alignCell (isHeader : Bool) (height : Nat) (lines : List String) : List String :=
  let blank := List.replicate (height - lines.length) ""
  if isHeader then blank ++ lines else lines ++ blank

/-- The rows that show cells side by side. There is at least one. -/
def rowsOf (isHeader : Bool) (widths : List Nat) (cells : List String) : List (List String) :=
  let columns := List.zipWith (cellLines fitColumn) widths cells
  let height := (columns.map List.length).foldl max 1
  let columns := columns.map (alignCell isHeader height)
  (List.range height).map fun i => columns.map fun column => column[i]?.getD ""

/-- The widths of the columns of rows that have as many cells as the first. -/
def columnWidths (first : List String) (rows : List (List String)) : List Nat :=
  rows.foldl (fun widths row => List.zipWith max widths (row.map textWidth)) (first.map textWidth)

/-- A table under its header. Without columns there is only an empty line. -/
def table (header : List String) (rows : List (List String)) : Output :=
  if header.isEmpty then .plain "\n"
  else
    let widths := columnWidths header rows
    .screen ((rowsOf true widths header ++ rows.flatMap (rowsOf false widths)).map .row)

/-! ## Data -/

/-- A value as a cell shows it; nothing is shown for an absent one. -/
def cell : Option Json → String
  | none | some .null => ""
  | some value => value.toValue.text

def isObject : Json → Bool
  | .object _ => true
  | _ => false

def membersOf : Json → List (String × Json)
  | .object members => members
  | _ => []

/-- A table of objects, with the members of the first as columns. -/
def recordTable (records : List Json) : Output :=
  match records with
  | [] => table ["result"] [["No results"]]
  | first :: _ =>
    let columns := (membersOf first).map Prod.fst
    table columns (records.map fun record =>
      columns.map fun column => cell (Json.member? (membersOf record) column))

def memberTable (members : List (String × Json)) : Output :=
  table ["field", "value"] (members.map fun (key, value) => [key, cell (some value)])

/-- Data of any shape. -/
def ofData : Json → Output
  | .array items =>
    if items.all isObject then recordTable items
    else .screen (frame (Json.array items).toValue.text)
  | .object members => memberTable members
  | .null => .screen (frame "OK")
  | value => .screen (frame value.toValue.text)

end Screen
end CaretQuery.CommandLine
