import CaretQuery.Clause
import CaretQuery.Config
import CaretQuery.Json.Reader

/-!
# Failures of commands

Why a command fails, what the report says about it, and the exit code. Faults of the caller's input
and of the configuration exit with 2, everything else with 1.
-/
namespace CaretQuery.CommandLine

/-- What a report says about a failure. -/
structure ErrorInfo where
  kind : String
  message : String
  hint : Option String := none
  details : Option (List (String × Json)) := none

inductive Failure where
  /-- A failure that says itself what is reported of it. -/
  | reported (info : ErrorInfo) (exitCode : Int)
  /-- A query that cannot be built. -/
  | query (kind message : String) (clause : Value) (index : Option Int)
  | config (message : String)
  /-- An error of this program that has no class of its own. -/
  | other (kind message : String)
  /-- An error that nothing was prepared for. -/
  | unexpected (kind message : String)

namespace Failure

/-- A wrong use of the command line. -/
def usage (message : String) (hint : Option String := none) : Failure :=
  .reported ⟨"usage_error", message, hint, none⟩ 2

def fileExists (message : String) : Failure := .reported ⟨"file_exists", message, none, none⟩ 2

def ofFileFault (fault : FileFault) : Failure := .unexpected fault.error.kind fault.message

def ofBuildError (e : BuildError) : Failure :=
  match e.fault with
  | .longInteger => .unexpected e.fault.kind e.message
  | _ => .query e.fault.kind e.message e.clause (e.index.map Int.ofNat)

theorem ofBuildError_of_ne {e : BuildError} (h : e.fault ≠ .longInteger) :
    ofBuildError e = .query e.fault.kind e.message e.clause (e.index.map Int.ofNat) := by
  rw [ofBuildError]
  split
  next hlong => exact absurd hlong h
  next => rfl

def ofQueryError : QueryError → Failure
  | .build e => ofBuildError e
  | .data fault => .unexpected fault.kind ""

/-- The failure to load the configuration at a path. -/
def ofLoadFault (path : Path) : Config.LoadFault → Failure
  | .config fault => .config (fault.message path)
  | .undecodable fault => .unexpected "UnicodeDecodeError" fault.message
  | .tooManyDigits count => .unexpected "ValueError" (Json.ReadError.tooManyDigits count).message
  | .inaccessible fault => ofFileFault fault

def exitCode : Failure → Int
  | .reported _ code => code
  | .query .. => 2
  | .config _ => 2
  | .other .. => 1
  | .unexpected .. => 1

/-- A clause as the details show it: a text as it is, another clause by the texts of its items. -/
def clauseDetail (clause : Value) : List (String × Json) :=
  match clause with
  | .none => []
  | clause =>
    match clause.asText? with
    | some s => [("clause", .str s)]
    | none => [("clause", .array ((clauseItems clause).map fun item => .str item.text))]

def queryDetails (kind : String) (clause : Value) (index : Option Int) : List (String × Json) :=
  ("error", .str kind) :: (index.map fun i => ("index", Json.int i)).toList ++ clauseDetail clause

def info : Failure → ErrorInfo
  | .reported info _ => info
  | .query kind message clause index =>
    ⟨"validation_error", message, none, some (queryDetails kind clause index)⟩
  | .config message => ⟨"config_error", message, none, none⟩
  | .other kind message => ⟨kind, message, none, none⟩
  | .unexpected kind message => ⟨"internal_error", kind ++ ": " ++ message, none, none⟩

end Failure
end CaretQuery.CommandLine
