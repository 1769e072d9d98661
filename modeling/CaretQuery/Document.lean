import CaretQuery.Number.Double

/-!
# Configuration documents

The data of a configuration file: scalars, arrays, and tables with their keys in order. Dates and
times are kept only as such, since no setting takes one.
-/
namespace CaretQuery

inductive Node where
  | null
  | bool (b : Bool)
  | int (n : Int)
  | float (x : Number.Double)
  | text (s : String)
  | moment
  | array (items : List Node)
  | table (entries : List (String × Node))
  deriving Inhabited

namespace Node

def find? (entries : List (String × Node)) (key : String) : Option Node :=
  (entries.find? fun entry => entry.1 == key).map Prod.snd

def isTable : Node → Bool
  | .table _ => true
  | _ => false

end Node
end CaretQuery
