import CaretQuery.Json
import CaretQuery.Number.Digits
import CaretQuery.Text.Surrogate

/-!
# Reading JSON

A text is read from left to right, and the first thing that does not fit is the error, with its
line and column. A step of the reader returns what it has read and the rest of the text, so the
place of an error is known from the length of the rest. An escape may name a lone surrogate.
-/
namespace CaretQuery.Json

inductive Problem where
  | expectingValue
  | expectingName
  | expectingColon
  | expectingComma
  | unterminatedString
  | invalidEscape
  | invalidUnicodeEscape
  | controlCharacter
  | extraData
  | byteOrderMark
  deriving DecidableEq, Repr

def Problem.message : Problem → String
  | .expectingValue => "Expecting value"
  | .expectingName => "Expecting property name enclosed in double quotes"
  | .expectingColon => "Expecting ':' delimiter"
  | .expectingComma => "Expecting ',' delimiter"
  | .unterminatedString => "Unterminated string starting at"
  | .invalidEscape => "Invalid \\escape"
  | .invalidUnicodeEscape => "Invalid \\uXXXX escape"
  | .controlCharacter => "Invalid control character at"
  | .extraData => "Extra data"
  | .byteOrderMark => "Unexpected UTF-8 BOM (decode using utf-8-sig)"

/-- What stops the reader: a problem with so many characters left, or an integer of more digits than
are converted. -/
inductive Stop where
  | problem (problem : Problem) (left : Nat)
  | tooManyDigits (count : Nat)
  deriving DecidableEq, Repr

/-- What has been read, and the rest. -/
abbrev Step (α : Type) := Except Stop (α × List Char)

def stopAt (problem : Problem) (rest : List Char) : Step α := .error (.problem problem rest.length)

def isSpace (c : Char) : Bool := c == ' ' || c == '\t' || c == '\n' || c == '\r'

def skipSpace (cs : List Char) : List Char := cs.dropWhile isSpace

def hexValue? (c : Char) : Option Nat :=
  if '0' ≤ c ∧ c ≤ '9' then some (c.toNat - 48)
  else if 'a' ≤ c ∧ c ≤ 'f' then some (c.toNat - 87)
  else if 'A' ≤ c ∧ c ≤ 'F' then some (c.toNat - 55)
  else none

def hexNumber? (a b c d : Char) : Option Nat := do
  let a ← hexValue? a
  let b ← hexValue? b
  let c ← hexValue? c
  let d ← hexValue? d
  some (((a * 16 + b) * 16 + c) * 16 + d)

def isHighSurrogate (n : Nat) : Bool := 0xD800 ≤ n && n ≤ 0xDBFF

def isLowSurrogate (n : Nat) : Bool := 0xDC00 ≤ n && n ≤ 0xDFFF

def scalar (n : Nat) : Char :=
  if isHighSurrogate n || isLowSurrogate n then Text.loneSurrogate n else Char.ofNat n

def simpleEscape? (c : Char) : Option Char :=
  if c = '"' ∨ c = '\\' ∨ c = '/' then some c
  else if c = 'b' then some '\x08'
  else if c = 'f' then some '\x0c'
  else if c = 'n' then some '\n'
  else if c = 'r' then some '\r'
  else if c = 't' then some '\t'
  else none

def consRead (c : Char) (step : Step (List Char)) : Step (List Char) :=
  step.map fun (cs, rest) => (c :: cs, rest)

/-- Reads the inside of a string up to its closing quote. `left` counts the characters from the
opening quote on. A code escape must not be the last thing in the text. -/
def readString (left : Nat) : List Char → Step (List Char)
  | [] => .error (.problem .unterminatedString left)
  | '"' :: rest => .ok ([], rest)
  | ['\\'] => .error (.problem .unterminatedString left)
  | '\\' :: 'u' :: a :: b :: c :: d :: '\\' :: 'u' :: e :: f :: g :: h :: next :: rest =>
    match hexNumber? a b c d with
    | none => .error (.problem .invalidUnicodeEscape (rest.length + 12))
    | some high =>
      if isHighSurrogate high then
        match hexNumber? e f g h with
        | none => .error (.problem .invalidUnicodeEscape (rest.length + 6))
        | some low =>
          if isLowSurrogate low then
            consRead (Char.ofNat (0x10000 + (high - 0xD800) * 0x400 + (low - 0xDC00)))
              (readString left (next :: rest))
          else
            consRead (Text.loneSurrogate high)
              (readString left ('\\' :: 'u' :: e :: f :: g :: h :: next :: rest))
      else
        consRead (scalar high) (readString left ('\\' :: 'u' :: e :: f :: g :: h :: next :: rest))
  | '\\' :: 'u' :: a :: b :: c :: d :: next :: rest =>
    match hexNumber? a b c d with
    | none => .error (.problem .invalidUnicodeEscape (rest.length + 6))
    | some n => consRead (scalar n) (readString left (next :: rest))
  | '\\' :: 'u' :: rest => .error (.problem .invalidUnicodeEscape (rest.length + 1))
  | '\\' :: c :: rest =>
    match simpleEscape? c with
    | none => .error (.problem .invalidEscape (rest.length + 2))
    | some c => consRead c (readString left rest)
  | c :: rest =>
    if c.toNat < 32 then .error (.problem .controlCharacter (rest.length + 1))
    else consRead c (readString left rest)

def isDigit (c : Char) : Bool := '0' ≤ c && c ≤ '9'

/-- The number that decimal digits spell. -/
def decimalValue (cs : List Char) : Nat := cs.foldl (fun n c => n * 10 + (c.toNat - 48)) 0

/-- The digits before the point: a zero alone, or digits that start with another one. -/
def wholeDigits : List Char → List Char
  | '0' :: _ => ['0']
  | cs => cs.takeWhile isDigit

/-- The digits after a point, which is part of the number only if there are any. -/
def fractionDigits : List Char → List Char
  | '.' :: rest => rest.takeWhile isDigit
  | _ => []

/-- An exponent with its sign, which is part of the number only if it has digits. -/
def exponentPart : List Char → Option (Bool × List Char × List Char)
  | e :: rest =>
    if e = 'e' ∨ e = 'E' then
      let (negative, digits) := match rest with
        | '-' :: digits => (true, digits)
        | '+' :: digits => (false, digits)
        | digits => (false, digits)
      if (digits.takeWhile isDigit).isEmpty then none
      else some (negative, digits.takeWhile isDigit, digits.dropWhile isDigit)
    else none
  | [] => none

/-- Reads an unsigned number; `start` is the text from its sign on. -/
def readNumber (negative : Bool) (start cs : List Char) : Step Json :=
  let whole := wholeDigits cs
  if whole.isEmpty then stopAt .expectingValue start
  else
    let rest := cs.drop whole.length
    let fraction := fractionDigits rest
    let rest := if fraction.isEmpty then rest else rest.drop (fraction.length + 1)
    let digits := decimalValue (whole ++ fraction)
    let count := whole.length + fraction.length
    match exponentPart rest with
    | some (down, exponent, rest) =>
      let size : Int := decimalValue exponent
      let exponent := (if down then -size else size) - fraction.length
      .ok (.float (.ofDecimal negative digits count exponent), rest)
    | none =>
      if !fraction.isEmpty then
        .ok (.float (.ofDecimal negative digits count (-fraction.length)), rest)
      else if Number.maxDigits < count then .error (.tooManyDigits count)
      else .ok (.int (if negative then -digits else digits), rest)

/-- Reads one of the words that stand for a value, or a number. -/
def readScalar : List Char → Step Json
  | 'n' :: 'u' :: 'l' :: 'l' :: rest => .ok (.null, rest)
  | 't' :: 'r' :: 'u' :: 'e' :: rest => .ok (.bool true, rest)
  | 'f' :: 'a' :: 'l' :: 's' :: 'e' :: rest => .ok (.bool false, rest)
  | 'N' :: 'a' :: 'N' :: rest => .ok (.float .nan, rest)
  | 'I' :: 'n' :: 'f' :: 'i' :: 'n' :: 'i' :: 't' :: 'y' :: rest =>
    .ok (.float (.infinite false), rest)
  | '-' :: 'I' :: 'n' :: 'f' :: 'i' :: 'n' :: 'i' :: 't' :: 'y' :: rest =>
    .ok (.float (.infinite true), rest)
  | '-' :: rest => readNumber true ('-' :: rest) rest
  | cs => readNumber false cs cs

mutual

/-- Reads a value at the start of a text. The first argument bounds the number of steps. -/
def readValue : Nat → List Char → Step Json
  | 0, cs => stopAt .expectingValue cs
  | _ + 1, '"' :: rest =>
    (readString (rest.length + 1) rest).map fun (cs, rest) => (.str (String.ofList cs), rest)
  | fuel + 1, '[' :: rest =>
    match skipSpace rest with
    | ']' :: rest => .ok (.array [], rest)
    | rest => (readItems fuel rest).map fun (items, rest) => (.array items, rest)
  | fuel + 1, '\x7b' :: rest =>
    match skipSpace rest with
    | '\x7d' :: rest => .ok (.object [], rest)
    | rest => (readMembers fuel rest).map fun (members, rest) => (objectOf members, rest)
  | _ + 1, cs => readScalar cs

/-- Reads the items of an array up to its closing bracket; there is at least one. -/
def readItems : Nat → List Char → Step (List Json)
  | 0, cs => stopAt .expectingValue cs
  | fuel + 1, cs =>
    match readValue fuel cs with
    | .error stop => .error stop
    | .ok (item, rest) =>
      match skipSpace rest with
      | ']' :: rest => .ok ([item], rest)
      | ',' :: rest =>
        (readItems fuel (skipSpace rest)).map fun (items, rest) => (item :: items, rest)
      | rest => stopAt .expectingComma rest

/-- Reads the members of an object up to its closing brace; there is at least one. -/
def readMembers : Nat → List Char → Step (List (String × Json))
  | 0, cs => stopAt .expectingValue cs
  | fuel + 1, '"' :: rest =>
    match readString (rest.length + 1) rest with
    | .error stop => .error stop
    | .ok (key, rest) =>
      match skipSpace rest with
      | ':' :: rest =>
        match readValue fuel (skipSpace rest) with
        | .error stop => .error stop
        | .ok (value, rest) =>
          match skipSpace rest with
          | '\x7d' :: rest => .ok ([(String.ofList key, value)], rest)
          | ',' :: rest =>
            (readMembers fuel (skipSpace rest)).map fun (members, rest) =>
              ((String.ofList key, value) :: members, rest)
          | rest => stopAt .expectingComma rest
      | rest => stopAt .expectingColon rest
  | _ + 1, cs => stopAt .expectingName cs

end

/-- Reads a whole text: one value with white space around it. -/
def readChars (cs : List Char) : Except Stop Json :=
  if cs.head? = some '\ufeff' then .error (.problem .byteOrderMark cs.length)
  else
    match readValue (2 * cs.length + 2) (skipSpace cs) with
    | .error stop => .error stop
    | .ok (value, rest) =>
      match skipSpace rest with
      | [] => .ok value
      | rest => .error (.problem .extraData rest.length)

inductive ReadError where
  | syntaxError (problem : Problem) (line column : Nat)
  | tooManyDigits (count : Nat)
  deriving DecidableEq, Repr

/-- Line and column, counted from 1, after a piece of text. -/
def position (before : List Char) : Nat × Nat :=
  (before.count '\n' + 1, (before.reverse.takeWhile fun c => c != '\n').length + 1)

/-- Reads a text as JSON. -/
def read (text : String) : Except ReadError Json :=
  match readChars text.toList with
  | .ok value => .ok value
  | .error (.tooManyDigits count) => .error (.tooManyDigits count)
  | .error (.problem problem left) =>
    let (line, column) := position (text.toList.take (text.toList.length - left))
    .error (.syntaxError problem line column)

def ReadError.message : ReadError → String
  | .syntaxError problem line column => s!"{problem.message} (line {line}, column {column})"
  | .tooManyDigits count =>
    Number.digitLimitMessage s!": value has {count} digits"

end CaretQuery.Json
