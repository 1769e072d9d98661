import CaretQuery.Number.Digits
import CaretQuery.Number.Shortest
import CaretQuery.Text.Quoted
import CaretQuery.Value

/-!
# The text of a value

A query holds the plain text of a value, a message its quoted text. The two differ for texts,
dates, moments, directions and expressions; everything inside another value is quoted. The plain
text of an expression is its filter section under the built-in operators.

An integer of too many digits has no text, nor has a value that holds one. `isWritable` tells which
values have a text, and wherever a text is asked for it is asked first.
-/
namespace CaretQuery

inductive TextStyle where
  | plain
  | quoted
  deriving DecidableEq, Repr

def Direction.memberName : Direction → String
  | .asc => "SortDirection.ASC"
  | .desc => "SortDirection.DESC"

/-- A tuple of one item keeps a comma behind it. -/
def tupleText : List String → String
  | [item] => "(" ++ item ++ ",)"
  | items => "(" ++ ", ".intercalate items ++ ")"

def dictText (entries : List String) : String := "\x7b" ++ ", ".intercalate entries ++ "\x7d"

def clauseListText (clauses : List String) : String :=
  "ClauseList(clauses=" ++ tupleText clauses ++ ")"

mutual

def Value.write (style : TextStyle) : Value → String
  | .none => "None"
  | .bool b => if b then "True" else "False"
  | .int n => toString n
  | .float x => x.text
  | .str s => if style = .plain then s else Text.quoted s
  | .list items => "[" ++ ", ".intercalate (writeItems items) ++ "]"
  | .tuple items => tupleText (writeItems items)
  | .dict entries => dictText (writeEntries entries)
  | .bytes bs => Text.quotedBytes bs
  | .date d => if style = .plain then d.text else d.quoted
  | .datetime t => if style = .plain then t.text else t.quoted
  | .iterator _ => "<iterator>"
  | .clauses items => clauseListText (writeItems items)
  | .direction d =>
    if style = .plain then d.memberName else "<" ++ d.memberName ++ ": '" ++ d.label ++ "'>"
  | .expr e =>
    if style = .plain then e.fragments ++ "^"
    else "Filter(" ++ Text.quoted (e.fragments ++ "^") ++ ")"

def writeItems : List Value → List String
  | [] => []
  | item :: items => item.write .quoted :: writeItems items

def writeEntries : List (Value × Value) → List String
  | [] => []
  | (key, value) :: entries =>
    (key.write .quoted ++ ": " ++ value.write .quoted) :: writeEntries entries

/-- The filter section of an expression without the separator that ends it. -/
def Expr.fragments : Expr → String
  | .compare field c value => field.write .plain ++ c.operator.token ++ value
  | .test field t => field.write .plain ++ t.operator.token
  | .join left j right => left.fragments ++ j.token ++ right.fragments

end

namespace Value

def text (v : Value) : String := v.write .plain

def quoted (v : Value) : String := v.write .quoted

@[simp] theorem text_str (s : String) : (Value.str s).text = s := by
  simp [text, write]

end Value

/-! ## Values without a text -/

mutual

/-- Whether a value has a text. An iterator is written without its items. -/
def Value.isWritable : Value → Bool
  | .int n => Number.isConvertible n
  | .list items => areWritable items
  | .tuple items => areWritable items
  | .clauses items => areWritable items
  | .dict entries => entriesAreWritable entries
  | .expr e => e.isWritable
  | _ => true

def areWritable : List Value → Bool
  | [] => true
  | item :: items => item.isWritable && areWritable items

def entriesAreWritable : List (Value × Value) → Bool
  | [] => true
  | (key, value) :: entries =>
    key.isWritable && value.isWritable && entriesAreWritable entries

/-- An expression is written with its fields; the values in it are texts already. -/
def Expr.isWritable : Expr → Bool
  | .compare field _ _ => field.isWritable
  | .test field _ => field.isWritable
  | .join left _ right => left.isWritable && right.isWritable

end

@[simp] theorem Value.isWritable_str (s : String) : (Value.str s).isWritable = true := by
  simp [isWritable]

/-- What is a text has one. -/
theorem Value.isWritable_of_asText? {v : Value} {s : String} (h : v.asText? = some s) :
    v.isWritable = true := by
  cases v <;> simp_all [asText?, isWritable]

@[simp] theorem areWritable_eq_all (items : List Value) :
    areWritable items = items.all Value.isWritable := by
  induction items with
  | nil => rfl
  | cons item items ih => rw [areWritable, ih, List.all_cons]

theorem writeItems_eq_map (items : List Value) : writeItems items = items.map Value.quoted := by
  induction items with
  | nil => rfl
  | cons item items ih => simp [writeItems, Value.quoted, ih]

end CaretQuery
