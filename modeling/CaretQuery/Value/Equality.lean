import CaretQuery.Value

/-!
# Equality of values

Numbers are equal across their kinds, texts and directions by their text, mappings without regard to
order, and moments with an offset as instants. A list never equals a tuple, and an iterator equals
nothing. Two expressions are equal when their clauses are.
-/
namespace CaretQuery

/-- Days before a date, counted from the first day of the year 1. -/
def Date.ordinal (d : Date) : Int :=
  let y : Int := d.year - 1
  let months := (List.range (d.month - 1)).map fun m => Date.daysIn d.year (m + 1)
  y * 365 + y / 4 - y / 100 + y / 400 + (months.foldr Nat.add 0 : Nat) + d.day

/-- Microseconds of universal time for a moment with an offset. -/
def DateTime.instant (t : DateTime) (offset : Int) : Int :=
  (((t.date.ordinal * 24 + t.hour) * 60 + t.minute - offset) * 60 + t.second) * 1000000 +
    t.microsecond

def DateTime.same (s t : DateTime) : Bool :=
  match s.offset, t.offset with
  | some a, some b => s.instant a == t.instant b
  | none, none => s == t
  | _, _ => false

namespace Value

/-- The integer that a number is, if it is one; truth values are the numbers 0 and 1. -/
def integer? : Value → Option Int
  | .bool b => some (if b then 1 else 0)
  | .int n => some n
  | .float x => x.toInt?
  | _ => Option.none

/-- Equality of values that hold no other values. -/
def sameScalar (a b : Value) : Bool :=
  match a, b with
  | .none, .none => true
  | .float x, .float y => x.sameNumber y
  | .bytes x, .bytes y => x == y
  | .date x, .date y => x == y
  | .datetime x, .datetime y => x.same y
  | a, b =>
    match a.asText?, b.asText?, a.integer?, b.integer? with
    | some s, some t, _, _ => s == t
    | _, _, some m, some n => m == n
    | _, _, _, _ => false

end Value

mutual

def Value.same : Value → Value → Bool
  | .list xs, .list ys => sameItems xs ys
  | .tuple xs, .tuple ys => sameItems xs ys
  | .clauses xs, .clauses ys => sameItems xs ys
  | .dict xs, .dict ys => xs.length == ys.length && sameEntries xs ys
  | .expr e, .expr f =>
    match e.consume f.clauses with
    | some [] => true
    | _ => false
  | a, b => a.sameScalar b

def sameItems : List Value → List Value → Bool
  | [], [] => true
  | x :: xs, y :: ys => x.same y && sameItems xs ys
  | _, _ => false

/-- Every entry of the first mapping is in the second. -/
def sameEntries : List (Value × Value) → List (Value × Value) → Bool
  | [], _ => true
  | (key, value) :: xs, ys =>
    ys.any (fun other => key.same other.1 && value.same other.2) && sameEntries xs ys

/-- What is left of a clause list after the clauses of an expression have been taken off its
front. -/
def Expr.consume : Expr → List Value → Option (List Value)
  | .compare field c value, .tuple [other, .str name, .str text] :: rest =>
    if field.same other && c.operator.name == name && value == text then some rest
    else none
  | .test field t, .tuple [other, .str name] :: rest =>
    if field.same other && t.operator.name == name then some rest else none
  | .join left j right, clauses =>
    match left.consume clauses with
    | some (.tuple [.str word] :: rest) => if j.word == word then right.consume rest else none
    | _ => none
  | _, _ => none

end

/-- Puts an entry into a mapping: an equal key keeps its place and gets the new value. -/
def putEntry (entries : List (Value × Value)) (key value : Value) : List (Value × Value) :=
  if entries.any fun entry => entry.1.same key then
    entries.map fun entry => if entry.1.same key then (entry.1, value) else entry
  else entries ++ [(key, value)]

/-- The mapping that a list of entries describes. -/
def Value.dictOf (entries : List (Value × Value)) : Value :=
  .dict (entries.foldl (fun found entry => putEntry found entry.1 entry.2) [])

end CaretQuery
