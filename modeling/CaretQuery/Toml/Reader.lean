import CaretQuery.Toml.Lexeme

/-!
# Reading TOML

A document is a list of statements, each on its own line: a key with a value, the opening of a
table, or a further table of an array. Opening a table twice, adding to a value that was written in
brackets or braces, and giving a key twice are faults.
-/
namespace CaretQuery.Toml

abbrev Key := List String

abbrev Table := List (String × Node)

def setEntry (t : Table) (key : String) (node : Node) : Table :=
  t.map fun entry => if entry.1 == key then (key, node) else entry

/-- Changes the table behind a key; missing tables on the way are made. Where arrays may be entered,
the way leads through their last table. -/
def updateAt (intoArrays : Bool) (f : Table → Option Table) : Key → Table → Option Table
  | [], t => f t
  | part :: key, t =>
    match Node.find? t part with
    | none => (updateAt intoArrays f key []).map fun inner => t ++ [(part, .table inner)]
    | some (.table inner) =>
      (updateAt intoArrays f key inner).map fun inner => setEntry t part (.table inner)
    | some (.array items) =>
      if intoArrays then
        match items.getLast? with
        | some (.table inner) =>
          (updateAt intoArrays f key inner).map fun inner =>
            setEntry t part (.array (items.dropLast ++ [.table inner]))
        | _ => none
      else none
    | some _ => none

def addEntry (key : String) (node : Node) (t : Table) : Option Table :=
  if (Node.find? t key).isSome then none else some (t ++ [(key, node)])

def appendTable (key : String) (t : Table) : Option Table :=
  match Node.find? t key with
  | none => some (t ++ [(key, .array [.table []])])
  | some (.array items) => some (setEntry t key (.array (items ++ [.table []])))
  | some _ => none

/-- Splits the last part off a key. -/
def splitLast (key : Key) : Key × String := (key.dropLast, key.getLast?.getD "")

def isBracketed : Node → Bool
  | .array _ => true
  | .table _ => true
  | _ => false

/-- Whether a key is one of the given ones or lies below one. -/
def isUnder (above : List Key) (key : Key) : Bool := above.any fun a => a.isPrefixOf key

/-! ## Values -/

def readScalar (cs : List Char) : Step Node :=
  match readText? cs with
  | some step => step.map fun (cs, rest) => (.text (String.ofList cs), rest)
  | none =>
    match cs with
    | 't' :: 'r' :: 'u' :: 'e' :: rest => .ok (.bool true, rest)
    | 'f' :: 'a' :: 'l' :: 's' :: 'e' :: rest => .ok (.bool false, rest)
    | cs => (readMoment? cs).getD (readNumber cs)

mutual

/-- Reads a value at the start of a text. The first argument bounds the number of steps. -/
def readValue : Nat → List Char → Step Node
  | 0, _ => invalid
  | fuel + 1, '[' :: rest => (readItems fuel rest).map fun (items, rest) => (.array items, rest)
  | fuel + 1, '\x7b' :: rest =>
    match skipBlanks rest with
    | '\x7d' :: rest => .ok (.table [], rest)
    | rest => (readPairs fuel [] [] rest).map fun (table, rest) => (.table table, rest)
  | _ + 1, cs => readScalar cs

/-- Reads the items of an array up to its closing bracket. A comma may follow the last one. -/
def readItems : Nat → List Char → Step (List Node)
  | 0, _ => invalid
  | fuel + 1, cs =>
    match skipFiller false cs with
    | .error fault => .error fault
    | .ok (']' :: rest) => .ok ([], rest)
    | .ok cs =>
      match readValue fuel cs with
      | .error fault => .error fault
      | .ok (item, rest) =>
        match skipFiller false rest with
        | .error fault => .error fault
        | .ok (']' :: rest) => .ok ([item], rest)
        | .ok (',' :: rest) =>
          (readItems fuel rest).map fun (items, rest) => (item :: items, rest)
        | .ok _ => invalid

/-- Reads the pairs of an inline table up to its closing brace. Values in brackets or braces that
have been read are closed for later keys. -/
def readPairs : Nat → List Key → Table → List Char → Step Table
  | 0, _, _, _ => invalid
  | fuel + 1, closed, table, cs =>
    match readKey cs with
    | .error fault => .error fault
    | .ok (key, '=' :: rest) =>
      match readValue fuel (skipBlanks rest) with
      | .error fault => .error fault
      | .ok (node, rest) =>
        let (above, last) := splitLast key
        match if isUnder closed key then none else updateAt false (addEntry last node) above table
          with
        | none => invalid
        | some table =>
          match skipBlanks rest with
          | '\x7d' :: rest => .ok (table, rest)
          | ',' :: rest =>
            readPairs fuel (if isBracketed node then key :: closed else closed) table
              (skipBlanks rest)
          | _ => invalid
    | .ok _ => invalid

end

/-! ## Statements -/

/-- What has been read of a document: its data, the table that keys go to, the keys below which
nothing may be added, the tables that may not be opened again, and those that dotted keys have made
since the last opening. -/
structure Draft where
  data : Table := []
  header : Key := []
  closed : List Key := []
  opened : List Key := []
  pending : List Key := []

namespace Draft

def settle (d : Draft) : Draft := { d with opened := d.pending ++ d.opened, pending := [] }

/-- The keys of the tables that a dotted key goes through. -/
def between (d : Draft) (above : Key) : List Key :=
  (List.range above.length).map fun n => d.header ++ above.take (n + 1)

def addPair (d : Draft) (key : Key) (node : Node) : Option Draft :=
  let (above, last) := splitLast key
  let passed := d.between above
  if passed.any d.opened.contains ∨ isUnder d.closed (d.header ++ above) then none
  else
    (updateAt true (addEntry last node) (d.header ++ above) d.data).map fun data =>
      { d with
        data := data
        pending := passed ++ d.pending
        closed := if isBracketed node then (d.header ++ key) :: d.closed else d.closed }

def openTable (d : Draft) (key : Key) : Option Draft :=
  if d.opened.contains key ∨ isUnder d.closed key then none
  else
    (updateAt true some key d.data).map fun data =>
      { d with data := data, header := key, opened := key :: d.opened }

/-- Opens a further table of an array, below which everything is free again. -/
def openItem (d : Draft) (key : Key) : Option Draft :=
  let (above, last) := splitLast key
  let isBelow (other : Key) := key.isPrefixOf other
  if isUnder d.closed key then none
  else
    (updateAt true (appendTable last) above d.data).map fun data =>
      { d with
        data := data
        header := key
        closed := d.closed.filter fun other => !isBelow other
        opened := key :: d.opened.filter fun other => !isBelow other }

end Draft

def orInvalid (rest : List Char) : Option Draft → Step Draft
  | none => invalid
  | some d => .ok (d, rest)

def readPair (d : Draft) (cs : List Char) : Step Draft :=
  match readKey cs with
  | .error fault => .error fault
  | .ok (key, '=' :: rest) =>
    match readValue (2 * rest.length + 2) (skipBlanks rest) with
    | .error fault => .error fault
    | .ok (node, rest) => orInvalid rest (d.addPair key node)
  | .ok _ => invalid

def readHeader (d : Draft) (cs : List Char) : Step Draft :=
  match readKey (skipBlanks cs) with
  | .ok (key, ']' :: rest) => orInvalid rest (d.settle.openTable key)
  | .ok _ => invalid
  | .error fault => .error fault

def readItemHeader (d : Draft) (cs : List Char) : Step Draft :=
  match readKey (skipBlanks cs) with
  | .ok (key, ']' :: ']' :: rest) => orInvalid rest (d.settle.openItem key)
  | .ok _ => invalid
  | .error fault => .error fault

def startsKey (c : Char) : Bool := isBareKeyChar c || c == '"' || c == '\''

/-- Reads one statement, up to the blanks behind it. -/
def readStatement (d : Draft) : List Char → Step Draft
  | '[' :: '[' :: rest => readItemHeader d rest
  | '[' :: rest => readHeader d rest
  | c :: rest =>
    if startsKey c then readPair d (c :: rest)
    else if c = '#' then .ok (d, c :: rest)
    else invalid
  | [] => .ok (d, [])

/-- Reads lines up to the end of the text. The first argument bounds their number. -/
def readLines : Nat → Draft → List Char → Except Fault Draft
  | 0, _, _ => .error .invalid
  | fuel + 1, d, cs =>
    match skipBlanks cs with
    | [] => .ok d
    | '\n' :: rest => readLines fuel d rest
    | cs =>
      match readStatement d cs with
      | .error fault => .error fault
      | .ok (d, rest) =>
        match skipComment (skipBlanks rest) with
        | .error fault => .error fault
        | .ok [] => .ok d
        | .ok ('\n' :: rest) => readLines fuel d rest
        | .ok _ => .error .invalid

/-- Line ends of two characters count as one. -/
def joinLineEnds : List Char → List Char
  | '\r' :: '\n' :: rest => '\n' :: joinLineEnds rest
  | c :: rest => c :: joinLineEnds rest
  | [] => []

/-- The data of a document. -/
def read (cs : List Char) : Except Fault Table :=
  let cs := joinLineEnds cs
  (readLines (cs.length + 1) {} cs).map Draft.data

end CaretQuery.Toml
