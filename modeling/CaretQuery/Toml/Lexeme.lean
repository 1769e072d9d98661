import CaretQuery.Calendar
import CaretQuery.Document
import CaretQuery.Json.Reader

/-!
# The words of TOML

Blanks and comments, strings in their four forms, keys, dates and times, and numbers. Every reader
takes the text from where it stands and returns what it has read with the rest of the text.
-/
namespace CaretQuery.Toml

/-- A text that is no TOML document, or an integer of more digits than are converted. -/
inductive Fault where
  | invalid
  | tooManyDigits (count : Nat)
  deriving DecidableEq, Repr

abbrev Step (α : Type) := Except Fault (α × List Char)

def invalid : Step α := .error .invalid

def isBlank (c : Char) : Bool := c == ' ' || c == '\t'

def isBlankOrNewline (c : Char) : Bool := isBlank c || c == '\n'

def skipBlanks (cs : List Char) : List Char := cs.dropWhile isBlank

/-- Control characters, which may stand nowhere; the tab is not one of them. -/
def isControl (c : Char) : Bool := (c.toNat < 32 && c != '\t') || c.toNat == 127

/-- What may stand neither in a line nor between lines. -/
def isControlInLines (c : Char) : Bool := isControl c && c != '\n'

/-- Skips a comment, up to the end of its line. -/
def skipComment : List Char → Except Fault (List Char)
  | '#' :: rest =>
    if (rest.takeWhile fun c => c != '\n').any isControl then .error .invalid
    else .ok (rest.dropWhile fun c => c != '\n')
  | cs => .ok cs

/-- Skips blanks, line ends and comments. -/
def skipFiller (inComment : Bool) : List Char → Except Fault (List Char)
  | [] => .ok []
  | c :: rest =>
    if inComment then
      if c = '\n' then skipFiller false rest
      else if isControl c then .error .invalid
      else skipFiller true rest
    else if isBlankOrNewline c then skipFiller false rest
    else if c = '#' then skipFiller true rest
    else .ok (c :: rest)

/-! ## Strings -/

/-- The inside of a string between single quotes. -/
def readLiteral (cs : List Char) : Step (List Char) :=
  let body := cs.takeWhile fun c => c != '\''
  match cs.drop body.length with
  | _ :: rest => if body.any isControl then invalid else .ok (body, rest)
  | [] => invalid

/-- The text before the first three single quotes in a row, and the text after them. -/
def untilTriple : List Char → Option (List Char × List Char)
  | [] => none
  | '\'' :: '\'' :: '\'' :: rest => some ([], rest)
  | c :: rest => (untilTriple rest).map fun (body, rest) => (c :: body, rest)

/-- Up to two more quotes belong to the string when they follow its closing quotes. -/
def extraQuotes (quote : Char) (body : List Char) : List Char → List Char × List Char
  | c :: d :: rest =>
    if c = quote then
      if d = quote then (body ++ [c, d], rest) else (body ++ [c], d :: rest)
    else (body, c :: d :: rest)
  | [c] => if c = quote then (body ++ [c], []) else (body, [c])
  | [] => (body, [])

def dropNewline : List Char → List Char
  | '\n' :: rest => rest
  | cs => cs

def readMultilineLiteral (cs : List Char) : Step (List Char) :=
  match untilTriple (dropNewline cs) with
  | none => invalid
  | some (body, rest) =>
    if body.any isControlInLines then invalid else .ok (extraQuotes '\'' body rest)

/-- The character of a code written with exactly `count` hexadecimal digits. -/
def readCode (count : Nat) (cs : List Char) : Step Char :=
  match (cs.take count).mapM Json.hexValue? with
  | none => invalid
  | some digits =>
    let n := digits.foldl (fun n d => n * 16 + d) 0
    if digits.length = count ∧ n.isValidChar then .ok (Char.ofNat n, cs.drop count) else invalid

def simpleEscape? (c : Char) : Option Char :=
  if c = 'b' then some '\x08'
  else if c = 't' then some '\t'
  else if c = 'n' then some '\n'
  else if c = 'f' then some '\x0c'
  else if c = 'r' then some '\r'
  else if c = '"' ∨ c = '\\' then some c
  else none

/-- What follows a backslash. In a string over several lines it may also be the end of a line, which
is left out together with the blanks after it. -/
def readEscape (multiline : Bool) : List Char → Step (List Char)
  | [] => invalid
  | c :: rest =>
    if multiline && isBlankOrNewline c then
      match if c = '\n' then c :: rest else skipBlanks rest with
      | [] => .ok ([], [])
      | d :: rest => if d = '\n' then .ok ([], rest.dropWhile isBlankOrNewline) else invalid
    else if c = 'u' then (readCode 4 rest).map fun (c, rest) => ([c], rest)
    else if c = 'U' then (readCode 8 rest).map fun (c, rest) => ([c], rest)
    else
      match simpleEscape? c with
      | some c => .ok ([c], rest)
      | none => invalid

def before (cs : List Char) : Step (List Char) → Step (List Char) :=
  Except.map fun (body, rest) => (cs ++ body, rest)

/-- The inside of a string between double quotes. The first argument bounds the number of steps. -/
def readBasicIn (multiline : Bool) : Nat → List Char → Step (List Char)
  | 0, _ => invalid
  | _ + 1, [] => invalid
  | fuel + 1, '"' :: rest =>
    if !multiline then .ok ([], rest)
    else match rest with
      | '"' :: '"' :: rest => .ok ([], rest)
      | rest => before ['"'] (readBasicIn multiline fuel rest)
  | fuel + 1, '\\' :: rest =>
    match readEscape multiline rest with
    | .error fault => .error fault
    | .ok (cs, rest) => before cs (readBasicIn multiline fuel rest)
  | fuel + 1, c :: rest =>
    if if multiline then isControlInLines c else isControl c then invalid
    else before [c] (readBasicIn multiline fuel rest)

def readBasic (cs : List Char) : Step (List Char) := readBasicIn false (cs.length + 1) cs

def readMultilineBasic (cs : List Char) : Step (List Char) :=
  (readBasicIn true (cs.length + 1) (dropNewline cs)).map fun (body, rest) =>
    extraQuotes '"' body rest

/-- A string in any of its four forms, if one starts here. -/
def readText? : List Char → Option (Step (List Char))
  | '"' :: '"' :: '"' :: rest => some (readMultilineBasic rest)
  | '"' :: rest => some (readBasic rest)
  | '\'' :: '\'' :: '\'' :: rest => some (readMultilineLiteral rest)
  | '\'' :: rest => some (readLiteral rest)
  | _ => none

/-! ## Keys -/

def isBareKeyChar (c : Char) : Bool := c.isAlphanum || c == '-' || c == '_'

def readKeyPart : List Char → Step String
  | '\'' :: rest => (readLiteral rest).map fun (cs, rest) => (String.ofList cs, rest)
  | '"' :: rest => (readBasic rest).map fun (cs, rest) => (String.ofList cs, rest)
  | cs =>
    if (cs.takeWhile isBareKeyChar).isEmpty then invalid
    else .ok (String.ofList (cs.takeWhile isBareKeyChar), cs.dropWhile isBareKeyChar)

/-- The parts of a dotted key, and the text after the blanks behind it. -/
def readKeyIn : Nat → List Char → Step (List String)
  | 0, _ => invalid
  | fuel + 1, cs =>
    match readKeyPart cs with
    | .error fault => .error fault
    | .ok (part, rest) =>
      match skipBlanks rest with
      | '.' :: rest =>
        (readKeyIn fuel (skipBlanks rest)).map fun (parts, rest) => (part :: parts, rest)
      | rest => .ok ([part], rest)

def readKey (cs : List Char) : Step (List String) := readKeyIn (cs.length + 1) cs

/-! ## Dates and times -/

def readNumber? (count low high : Nat) (cs : List Char) : Option (Nat × List Char) :=
  let digits := cs.take count
  let n := Json.decimalValue digits
  if digits.length = count ∧ digits.all Json.isDigit ∧ low ≤ n ∧ n ≤ high then
    some (n, cs.drop count)
  else none

def readChar? (c : Char) : List Char → Option (List Char)
  | d :: rest => if d = c then some rest else none
  | [] => none

def readDate? (cs : List Char) : Option (Date × List Char) := do
  let (year, cs) ← readNumber? 4 0 9999 cs
  let (month, cs) ← readNumber? 2 1 12 (← readChar? '-' cs)
  let (day, cs) ← readNumber? 2 1 31 (← readChar? '-' cs)
  some (⟨year, month, day⟩, cs)

def skipFraction (cs : List Char) : List Char :=
  cs.drop (match Json.fractionDigits cs with
    | [] => 0
    | digits => digits.length + 1)

/-- The text after a time of day. -/
def readTime? (cs : List Char) : Option (List Char) := do
  let (_, cs) ← readNumber? 2 0 23 cs
  let (_, cs) ← readNumber? 2 0 59 (← readChar? ':' cs)
  let (_, cs) ← readNumber? 2 0 59 (← readChar? ':' cs)
  some (skipFraction cs)

def readOffset? : List Char → Option (List Char)
  | c :: cs =>
    if c = 'Z' ∨ c = 'z' then some cs
    else if c = '+' ∨ c = '-' then do
      let (_, cs) ← readNumber? 2 0 23 cs
      let (_, cs) ← readNumber? 2 0 59 (← readChar? ':' cs)
      some cs
    else none
  | [] => none

/-- The text after a time of day that belongs to a date, and after its offset. -/
def skipTimeOfDate : List Char → List Char
  | c :: cs =>
    if c = 'T' ∨ c = 't' ∨ c = ' ' then
      match readTime? cs with
      | some rest => (readOffset? rest).getD rest
      | none => c :: cs
    else c :: cs
  | [] => []

/-- A date with or without a time, or a time, if one starts here. The day must exist. -/
def readMoment? (cs : List Char) : Option (Step Node) :=
  match readDate? cs with
  | some (date, rest) =>
    some (if date.IsValid then .ok (.moment, skipTimeOfDate rest) else invalid)
  | none => (readTime? cs).map fun rest => .ok (.moment, rest)

/-! ## Numbers -/

/-- Digits with single underscores between them. -/
def moreDigits (isDigit : Char → Bool) : List Char → List Char × List Char
  | '_' :: d :: rest =>
    if isDigit d then
      let (digits, rest) := moreDigits isDigit rest
      (d :: digits, rest)
    else ([], '_' :: d :: rest)
  | d :: rest =>
    if isDigit d then
      let (digits, rest) := moreDigits isDigit rest
      (d :: digits, rest)
    else ([], d :: rest)
  | [] => ([], [])

def readDigits? (isDigit : Char → Bool) : List Char → Option (List Char × List Char)
  | d :: rest => if isDigit d then some (moreDigits isDigit (d :: rest)) else none
  | [] => none

def digitsBelow (base : Nat) (c : Char) : Bool := (Json.hexValue? c).any (· < base)

def valueIn (base : Nat) (digits : List Char) : Nat :=
  digits.foldl (fun n d => n * base + (Json.hexValue? d).getD 0) 0

/-- A number in base 16, 8 or 2. -/
def readBased? : List Char → Option (Nat × List Char)
  | '0' :: c :: rest => do
    let base ← if c = 'x' then some 16 else if c = 'o' then some 8 else if c = 'b' then some 2
      else none
    let (digits, rest) ← readDigits? (digitsBelow base) rest
    some (valueIn base digits, rest)
  | _ => none

def readFraction (cs : List Char) : List Char × List Char :=
  match cs with
  | '.' :: rest => (readDigits? Json.isDigit rest).getD ([], cs)
  | _ => ([], cs)

def readExponent? : List Char → Option (Int × List Char)
  | e :: rest =>
    if e = 'e' ∨ e = 'E' then
      match rest with
      | '-' :: rest => (readDigits? Json.isDigit rest).map fun (digits, rest) =>
        (-(Json.decimalValue digits : Int), rest)
      | '+' :: rest => (readDigits? Json.isDigit rest).map fun (digits, rest) =>
        ((Json.decimalValue digits : Int), rest)
      | rest => (readDigits? Json.isDigit rest).map fun (digits, rest) =>
        ((Json.decimalValue digits : Int), rest)
    else none
  | [] => none

def readWhole? : List Char → Option (List Char × List Char)
  | '0' :: rest => some (['0'], rest)
  | cs => readDigits? Json.isDigit cs

/-- A decimal number without its sign, if one starts here. -/
def readDecimal? (negative : Bool) (cs : List Char) : Option (Step Node) := do
  let (whole, rest) ← readWhole? cs
  let (fraction, rest) := readFraction rest
  let digits := whole ++ fraction
  let value := Json.decimalValue digits
  match readExponent? rest with
  | some (exponent, rest) =>
    some (.ok (.float (.ofDecimal negative value digits.length (exponent - fraction.length)), rest))
  | none =>
    if !fraction.isEmpty then
      some (.ok (.float (.ofDecimal negative value digits.length (-fraction.length)), rest))
    else if Number.maxDigits < digits.length then some (.error (.tooManyDigits digits.length))
    else some (.ok (.int (if negative then -value else value), rest))

def readSpecial? (negative : Bool) : List Char → Option (Step Node)
  | 'i' :: 'n' :: 'f' :: rest => some (.ok (.float (.infinite negative), rest))
  | 'n' :: 'a' :: 'n' :: rest => some (.ok (.float .nan, rest))
  | _ => none

def splitSign : List Char → Bool × List Char
  | '-' :: rest => (true, rest)
  | '+' :: rest => (false, rest)
  | cs => (false, cs)

/-- A number in any form. -/
def readNumber (cs : List Char) : Step Node :=
  match readBased? cs with
  | some (n, rest) => .ok (.int n, rest)
  | none =>
    let (negative, rest) := splitSign cs
    ((readDecimal? negative rest).or (readSpecial? negative rest)).getD invalid

end CaretQuery.Toml
