import CaretQuery.Number.Shortest
import CaretQuery.Text.Quoted
import CaretQuery.Value

/-!
# JSON

JSON values with the keys of an object in order, their text on one line, and their text over
several lines with an indent of two. Texts are written as they are; only the quote, the backslash
and control characters are escaped.
-/
namespace CaretQuery

inductive Json where
  | null
  | bool (b : Bool)
  | int (n : Int)
  | float (x : Number.Double)
  | str (s : String)
  | array (items : List Json)
  | object (members : List (String × Json))
  deriving Inhabited

namespace Json

def escapeChar (c : Char) : List Char :=
  if c = '"' ∨ c = '\\' then ['\\', c]
  else if c = '\n' then ['\\', 'n']
  else if c = '\r' then ['\\', 'r']
  else if c = '\t' then ['\\', 't']
  else if c = '\x08' then ['\\', 'b']
  else if c = '\x0c' then ['\\', 'f']
  else if c.toNat < 32 then '\\' :: 'u' :: Text.hexDigits 4 c.toNat
  else [c]

def quotedChars (cs : List Char) : List Char := '"' :: cs.flatMap escapeChar ++ ['"']

def quoted (s : String) : String := String.ofList (quotedChars s.toList)

/-- The two numbers that JSON has no form for are written by name. -/
def floatText : Number.Double → String
  | .nan => "NaN"
  | .infinite negative => if negative then "-Infinity" else "Infinity"
  | x => x.text

def arrayText (items : List String) : String := "[" ++ ", ".intercalate items ++ "]"

def objectText (members : List String) : String := "\x7b" ++ ", ".intercalate members ++ "\x7d"

/-- Items on lines of their own, one level deeper than the brackets around them. -/
def block (openBracket closeBracket : String) (depth : Nat) (items : List String) : String :=
  let indent (n : Nat) := "\n" ++ String.ofList (List.replicate (2 * n) ' ')
  openBracket ++ indent (depth + 1) ++ ("," ++ indent (depth + 1)).intercalate items ++
    indent depth ++ closeBracket

mutual

/-- The text of a value on one line. -/
def write : Json → String
  | .null => "null"
  | .bool b => if b then "true" else "false"
  | .int n => toString n
  | .float x => floatText x
  | .str s => quoted s
  | .array items => arrayText (writeItems items)
  | .object members => objectText (writeMembers members)

def writeItems : List Json → List String
  | [] => []
  | item :: items => item.write :: writeItems items

def writeMembers : List (String × Json) → List String
  | [] => []
  | (key, value) :: members => (quoted key ++ ": " ++ value.write) :: writeMembers members

end

mutual

/-- The text of a value with every item on a line of its own. -/
def writeIndented (depth : Nat) : Json → String
  | .array items =>
    if items.isEmpty then "[]" else block "[" "]" depth (writeIndentedItems (depth + 1) items)
  | .object members =>
    if members.isEmpty then "\x7b\x7d"
    else block "\x7b" "\x7d" depth (writeIndentedMembers (depth + 1) members)
  | .null => "null"
  | .bool b => if b then "true" else "false"
  | .int n => toString n
  | .float x => floatText x
  | .str s => quoted s

def writeIndentedItems (depth : Nat) : List Json → List String
  | [] => []
  | item :: items => item.writeIndented depth :: writeIndentedItems depth items

def writeIndentedMembers (depth : Nat) : List (String × Json) → List String
  | [] => []
  | (key, value) :: members =>
    (quoted key ++ ": " ++ value.writeIndented depth) :: writeIndentedMembers depth members

end

mutual

/-- The value that a JSON value stands for in a clause. -/
def toValue : Json → Value
  | .null => .none
  | .bool b => .bool b
  | .int n => .int n
  | .float x => .float x
  | .str s => .str s
  | .array items => .list (toValues items)
  | .object members => .dict (toEntries members)

def toValues : List Json → List Value
  | [] => []
  | item :: items => item.toValue :: toValues items

def toEntries : List (String × Json) → List (Value × Value)
  | [] => []
  | (key, value) :: members => (.str key, value.toValue) :: toEntries members

end

/-- The value under a key. -/
def member? (members : List (String × Json)) (key : String) : Option Json :=
  (members.find? fun member => member.1 == key).map Prod.snd

/-- Puts a member into an object: a key that is present keeps its place. -/
def putMember (members : List (String × Json)) (key : String) (value : Json) :
    List (String × Json) :=
  if members.any fun member => member.1 == key then
    members.map fun member => if member.1 == key then (key, value) else member
  else members ++ [(key, value)]

/-- The object that a list of members describes; of equal keys the last counts. -/
def objectOf (members : List (String × Json)) : Json :=
  .object (members.foldl (fun found member => putMember found member.1 member.2) [])

def ofOption (f : α → Json) : Option α → Json
  | none => .null
  | some a => f a

end Json
end CaretQuery
