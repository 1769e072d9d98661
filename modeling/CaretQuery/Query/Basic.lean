import CaretQuery.Query.Error
import CaretQuery.Text.LowerCase

/-!
# Basic queries

A basic query orders by one field and matches fields exactly or by substring. The order comes
first, then the exact matches, then the others, each with its field in lower case.
-/
namespace CaretQuery

/-- The direction that a value stands for: itself, or its name in any letter case. -/
def Direction.coerce (v : Value) : Except BuildError Direction :=
  match v with
  | .direction d => .ok d
  | v =>
    if v.isWritable then
      match [Direction.asc, .desc].find? fun d => d.word == Text.lowerString v.text with
      | some d => .ok d
      | none => .error ⟨.invalidDirection v, v, none⟩
    else .error ⟨.longInteger, v, none⟩

/-- Why data that is not a query fault cannot be used as a match or an order field. -/
inductive MatchFault where
  | notIterable
  | notPair
  | noLowerCase
  | longInteger
  | orderNotText
  deriving DecidableEq, Repr

/-- The kind of error that a report names. -/
def MatchFault.kind : MatchFault → String
  | .notIterable => "TypeError"
  | .notPair => "ValueError"
  | .noLowerCase => "AttributeError"
  | .longInteger => "ValueError"
  | .orderNotText => "TypeError"

inductive QueryError where
  | build (error : BuildError)
  | data (fault : MatchFault)

/-- The two values that a match is made of. -/
def asPair (v : Value) : Except MatchFault (Value × Value) :=
  match v.elements? with
  | none => .error .notIterable
  | some [field, value] => .ok (field, value)
  | some _ => .error .notPair

/-- The field and value of each match, in order. A mapping gives its entries. -/
def matchPairs : Value → Except MatchFault (List (Value × Value))
  | .none => .ok []
  | .dict entries => .ok entries
  | v =>
    match v.elements? with
    | none => .error .notIterable
    | some elements => elements.mapM asPair

/-- The text of a field in lower case. Texts and bytes have one. -/
def lowerField : Value → Except MatchFault String
  | .bytes bs =>
    .ok (Text.quotedBytes (bs.map fun b => if 65 ≤ b ∧ b ≤ 90 then b + 32 else b))
  | v =>
    match v.asText? with
    | some s => .ok (Text.lowerString s)
    | none => .error .noLowerCase

def matchFragment (token : String) (pair : Value × Value) : Except MatchFault String := do
  let field ← lowerField pair.1
  if pair.2.isWritable then .ok ("^" ++ field ++ token ++ pair.2.text) else .error .longInteger

def matchFragments (token : String) (given : Value) : Except MatchFault (List String) := do
  (← matchPairs given).mapM (matchFragment token)

structure BasicInput where
  orderBy : Value := .str "opened_at"
  direction : Value := .direction .desc
  exact : Value := .none
  contains : Value := .none

def basicMatches (input : BasicInput) : Except MatchFault String := do
  let exact ← matchFragments "=" input.exact
  let contains ← matchFragments "LIKE" input.contains
  match input.orderBy.asText? with
  | none => .error .orderNotText
  | some field => .ok (String.join (field :: exact ++ contains))

def basicQuery (input : BasicInput) : Except QueryError String :=
  match Direction.coerce input.direction with
  | .error e => .error (.build e)
  | .ok direction =>
    match basicMatches input with
    | .error fault => .error (.data fault)
    | .ok rest => .ok (direction.token ++ rest)

end CaretQuery
