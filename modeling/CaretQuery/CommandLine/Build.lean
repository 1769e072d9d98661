import CaretQuery.CommandLine.Arguments
import CaretQuery.CommandLine.Input
import CaretQuery.Config.Cache
import CaretQuery.Log.Journal

/-!
# The build command

The arguments are read in a fixed order: the filter, the sort, the exact matches and the others. The
operator table is loaded only after that, and only for an advanced query.
-/
namespace CaretQuery.CommandLine

/-- A journal after a step, with what the step brought. -/
abbrev Logged (α : Type) := Except Failure α × Log.Journal

namespace BuildArguments

/-- Whether clauses are given, which are read as JSON. -/
def readsJson (a : BuildArguments) : Bool :=
  a.filter.isSome || a.filterFile.isSome || a.sort.isSome

def filterClauses (a : BuildArguments) (files : Files) (stdin : List UInt8) :
    Except Failure (Option Json) :=
  match a.filter, a.filterFile with
  | some _, some _ => .error (.usage "Use only one of --filter and --filter-file.")
  | some text, none => (readClauses "--filter" text).map some
  | none, some file =>
    match readFilterFile files stdin file with
    | .error failure => .error failure
    | .ok text => (readClauses "--filter-file" text).map some
  | none, none => .ok none

def sortHint : String :=
  "Pass --sort '[[\"opened_at\",\"desc\"]]' (or --sort '[]' for no ordering)."

/-- The sort clauses; a filter needs some. -/
def sortClauses (a : BuildArguments) (hasFilter : Bool) : Except Failure (Option Json) :=
  match a.sort with
  | some text => (readClauses "--sort" text).map some
  | none =>
    if hasFilter then .error (.usage "Advanced mode requires --sort." sortHint) else .ok none

def valueOf (f : α → Value) : Option α → Value
  | none => .none
  | some a => f a

/-- The input of the query that the arguments describe, without an operator table. -/
def queryInput (a : BuildArguments) (files : Files) (stdin : List UInt8) :
    Except Failure QueryInput := do
  let filter ← a.filterClauses files stdin
  let sort ← a.sortClauses filter.isSome
  let exact ← readMatches "--match-exact" a.exact
  let contains ← readMatches "--match-contains" a.contains
  .ok {
    filter := valueOf Json.toValue filter
    sort := valueOf Json.toValue sort
    orderBy := valueOf Value.str a.orderBy
    direction := valueOf (fun d => .str d.label) a.direction
    exact := matchesValue exact
    contains := matchesValue contains }

end BuildArguments

def queryData (query : Query) : Json :=
  .object [("query", .str query.text), ("mode", .str query.mode.name),
    ("params", .object ((queryParams query.text).map fun (key, value) => (key, .str value)))]

/-- Builds a query and logs it. -/
def buildLogged (j : Log.Journal) (input : QueryInput) : Logged Outcome :=
  match buildQuery input with
  | .error e => (.error (.ofQueryError e), j)
  | .ok query => (.ok { data := queryData query }, j.log (Log.ofQuery query))

/-- Loads the configuration and logs that. -/
def loadLogged (cache : Config.Cache) (j : Log.Journal) : Logged OperatorTable :=
  match cache.load j.files with
  | .error fault => (.error (.ofLoadFault cache.path fault), j)
  | .ok (loaded, records) => (.ok loaded.operators, j.logAll records)

def BuildArguments.perform (a : BuildArguments) (cache : Config.Cache) (stdin : List UInt8)
    (j : Log.Journal) : Logged Outcome :=
  match a.queryInput j.files stdin with
  | .error failure => (.error failure, j)
  | .ok input =>
    if input.isAdvanced then
      match loadLogged cache j with
      | (.error failure, j) => (.error failure, j)
      | (.ok table, j) => buildLogged j { input with operators := some table }
    else buildLogged j input

end CaretQuery.CommandLine
