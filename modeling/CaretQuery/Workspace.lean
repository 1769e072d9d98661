import CaretQuery.Expression
import CaretQuery.Operator.Record
import CaretQuery.Query.Build
import CaretQuery.Value.Equality

/-!
# Workspaces

A workspace binds names to operator tables and expressions. Each step asks for something or binds
the result of something; a step that fails binds nothing and leaves every other binding as it is.
-/
namespace CaretQuery

mutual

/-- Whether a value can be the key of a mapping. Lists and mappings cannot, nor what holds one. -/
def Value.isKey : Value → Bool
  | .list _ => false
  | .dict _ => false
  | .tuple items => areKeys items
  | .clauses items => areKeys items
  | .expr e => e.isKey
  | _ => true

def areKeys : List Value → Bool
  | [] => true
  | item :: items => item.isKey && areKeys items

def Expr.isKey : Expr → Bool
  | .compare field _ _ => field.isKey
  | .test field _ => field.isKey
  | .join left _ right => left.isKey && right.isKey

end

/-- The names of a table as a message shows them. -/
def OperatorTable.quoted (t : OperatorTable) : String :=
  "OperatorTable(" ++ (Value.list (t.names.map Value.str)).quoted ++ ")"

inductive Binding where
  | table (table : OperatorTable)
  | expr (expr : Expr)

namespace Binding

/-- Tables are the same without regard to order, expressions by their clauses. -/
def same : Binding → Binding → Bool
  | .table s, .table t => s.sameRows t
  | .expr a, .expr b => (Value.expr a).same (.expr b)
  | _, _ => false

end Binding

structure Workspace where
  bindings : List (String × Binding) := [("default", .table .builtin)]

namespace Workspace

/-- A step, with the names of the bindings that it uses. -/
inductive Step where
  | records (name : String) (records : List Node)
  | merge (name base : String) (records : List Node)
  | mergeEach (name base : String) (records : List Node)
  | get (table : String) (key : Value)
  | token (table : String) (key : Value)
  | has (table : String) (key : Value)
  | size (table : String)
  | names (table : String)
  | quoted (table : String)
  | equal (left right : String)
  | assign (table operator setting : String)
  | compile (table : String) (filter : Value)
  | build (table : String) (filter sort : Value)
  | express (name : String) (expr : Expr)
  | combine (join : Join) (name left right : String)
  | text (expr : String)
  | textUnder (expr table : String)
  | query (expr table : String) (sort : Value)

inductive Reply where
  | table (table : OperatorTable)
  | operator (operator : Option Operator)
  | text (text : String)
  | texts (texts : List String)
  | truth (b : Bool)
  | count (n : Nat)
  | clauses (clauses : List Value)

/-- Why a step fails: a name that is not bound, a key that is not there or cannot be one, an
setting of an operator, none of which can be changed, or a fault of what was to be built. -/
inductive Refusal where
  | unbound
  | noSuchKey
  | notKey
  | frozen (setting : String)
  | table (error : TableError)
  | record (issues : List Issue)
  | query (error : QueryError)

def find? (w : Workspace) (name : String) : Option Binding :=
  (w.bindings.find? fun binding => binding.1 == name).map Prod.snd

def bind (w : Workspace) (name : String) (binding : Binding) : Workspace :=
  ⟨(name, binding) :: w.bindings.filter fun other => other.1 != name⟩

def table (w : Workspace) (name : String) : Except Refusal OperatorTable :=
  match w.find? name with
  | some (.table t) => .ok t
  | _ => .error .unbound

def expr (w : Workspace) (name : String) : Except Refusal Expr :=
  match w.find? name with
  | some (.expr e) => .ok e
  | _ => .error .unbound

/-- The operator under a key. -/
def lookUp (t : OperatorTable) (key : Value) : Except Refusal (Option Operator) :=
  if key.isKey then .ok (t.named? key) else .error .notKey

def bindTable (w : Workspace) (name : String) (t : Except TableError OperatorTable) :
    Except Refusal (Reply × Workspace) :=
  match t with
  | .error e => .error (.table e)
  | .ok t => .ok (.table t, w.bind name (.table t))

def bindExpr (w : Workspace) (name : String) (e : Expr) : Reply × Workspace :=
  (.clauses e.clauses, w.bind name (.expr e))

/-- The table that a base becomes with the operators of a list of records. -/
def mergedTable (base : OperatorTable) (records : List Node) : Except TableError OperatorTable := do
  base.mergedWith (← OperatorTable.ofRecords records).rows

def fromBuild (result : Except BuildError α) : Except Refusal α :=
  result.mapError fun e => .query (.build e)

/-- What a step answers, and what it makes of the workspace. -/
def step (w : Workspace) : Step → Except Refusal (Reply × Workspace)
  | .records name records => w.bindTable name (OperatorTable.ofRecords records)
  | .merge name base records => do
    w.bindTable name (mergedTable (← w.table base) records)
  | .mergeEach name base records => do
    let ops ← (records.mapM Record.read).mapError .record
    w.bindTable name ((← w.table base).mergedWith ops)
  | .get name key => do
    .ok (.operator (← lookUp (← w.table name) key), w)
  | .token name key => do
    match ← lookUp (← w.table name) key with
    | none => .error .noSuchKey
    | some op => .ok (.text op.token, w)
  | .has name key => do
    .ok (.truth (← lookUp (← w.table name) key).isSome, w)
  | .size name => do
    .ok (.count (← w.table name).size, w)
  | .names name => do
    .ok (.texts (← w.table name).names, w)
  | .quoted name => do
    .ok (.text (← w.table name).quoted, w)
  | .equal left right =>
    match w.find? left, w.find? right with
    | some a, some b => .ok (.truth (a.same b), w)
    | _, _ => .error .unbound
  | .assign name operator setting => do
    match (← w.table name).find? operator with
    | none => .error .noSuchKey
    | some _ => .error (.frozen setting)
  | .compile name filter => do
    .ok (.texts (← fromBuild (compileFilter (← w.table name) filter)), w)
  | .build name filter sort => do
    let input : QueryInput := { filter, sort, operators := some (← w.table name) }
    .ok (.text (← (buildQuery input).mapError .query).text, w)
  | .express name e => .ok (w.bindExpr name e)
  | .combine j name left right => do
    .ok (w.bindExpr name (.join (← w.expr left) j (← w.expr right)))
  | .text name => do
    .ok (.text (← fromBuild ((← w.expr name).compile .builtin)), w)
  | .textUnder name table => do
    .ok (.text (← fromBuild ((← w.expr name).compile (← w.table table))), w)
  | .query name table sort => do
    let clauses := Value.list (← w.expr name).clauses
    .ok (.text (← fromBuild (advancedQuery (← w.table table) clauses sort)), w)

/-- The workspace after a step; one that fails changes nothing. -/
def after (w : Workspace) (s : Step) : Workspace :=
  match w.step s with
  | .ok (_, next) => next
  | .error _ => w

end Workspace
end CaretQuery
