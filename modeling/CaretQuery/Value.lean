import CaretQuery.Calendar
import CaretQuery.Number.Double
import CaretQuery.Operator.Builtin

/-!
# Values of clauses and queries

Callers hand in clauses as loose data: texts, numbers, dates, sequences and mappings, nested in any
way. `Value` is that data. Filter expressions are values too, since they may stand wherever a value
may; an expression is a tree of tests on fields, and its clauses are its in-order reading.
-/
namespace CaretQuery

/-- The words that join two filter clauses. -/
inductive Join where
  | and
  | or
  | group
  deriving DecidableEq, Repr

namespace Join

def all : List Join := [.and, .or, .group]

def word : Join → String
  | .and => "and"
  | .or => "or"
  | .group => "group"

def token : Join → String
  | .and => "^"
  | .or => "^OR"
  | .group => "^NQ"

def ofWord? (word : String) : Option Join := all.find? fun join => join.word == word

end Join

/-- The direction in which the answer is sorted. -/
inductive Direction where
  | asc
  | desc
  deriving DecidableEq, Repr

namespace Direction

/-- The word in a sort clause. -/
def word : Direction → String
  | .asc => "asc"
  | .desc => "desc"

/-- The name as a setting of its own. -/
def label : Direction → String
  | .asc => "Asc"
  | .desc => "Desc"

def token : Direction → String
  | .asc => "ORDERBY"
  | .desc => "ORDERBYDESC"

def ofWord? (word : String) : Option Direction :=
  [Direction.asc, .desc].find? fun direction => direction.word == word

end Direction

mutual

/-- Loose data. An iterator is a sequence that can be read once; `clauses` is a list of clauses that
was built as such and is never taken for a single clause. -/
inductive Value where
  | none
  | bool (b : Bool)
  | int (n : Int)
  | float (x : Number.Double)
  | str (s : String)
  | list (items : List Value)
  | tuple (items : List Value)
  | dict (entries : List (Value × Value))
  | bytes (bs : List UInt8)
  | date (d : Date)
  | datetime (t : DateTime)
  | iterator (items : List Value)
  | clauses (items : List Value)
  | direction (d : Direction)
  | expr (e : Expr)

/-- A filter expression: a comparison with a formatted value, a test without one, or two
expressions joined. -/
inductive Expr where
  | compare (field : Value) (comparison : Comparison) (value : String)
  | test (field : Value) (test : FieldTest)
  | join (left : Expr) (join : Join) (right : Expr)

end

namespace Value

/-- The text of a value that is a text; directions are texts as well. -/
def asText? : Value → Option String
  | .str s => some s
  | .direction d => some d.label
  | _ => Option.none

def isText (v : Value) : Bool := v.asText?.isSome

/-- The items of a value that holds items, in order. A mapping holds its keys. Texts count as
scalars here. -/
def items? : Value → Option (List Value)
  | .list items => some items
  | .tuple items => some items
  | .iterator items => some items
  | .clauses items => some items
  | .dict entries => some (entries.map Prod.fst)
  | .bytes bs => some (bs.map fun b => .int b.toNat)
  | _ => Option.none

/-- What is met on walking through a value: its items, or the characters of a text. -/
def elements? (v : Value) : Option (List Value) :=
  match v.asText? with
  | some s => some (s.toList.map fun c => .str (String.singleton c))
  | Option.none => v.items?

def isNone : Value → Bool
  | .none => true
  | _ => false

/-- Empty values and zeros do not count as given. -/
def isTruthy : Value → Bool
  | .none => false
  | .bool b => b
  | .int n => n != 0
  | .float x => !x.isZero
  | .str s => !s.isEmpty
  | .list items => !items.isEmpty
  | .tuple items => !items.isEmpty
  | .dict entries => !entries.isEmpty
  | .bytes bs => !bs.isEmpty
  | .clauses items => !items.isEmpty
  | _ => true

end Value

/-- The clauses of an expression, from left to right, with a one-item join between neighbours. -/
def Expr.clauses : Expr → List Value
  | .compare field c value => [.tuple [field, .str c.operator.name, .str value]]
  | .test field t => [.tuple [field, .str t.operator.name]]
  | .join left j right => left.clauses ++ .tuple [.str j.word] :: right.clauses

end CaretQuery
