import CaretQuery.CommandLine.Run
import CaretQuery.Proofs.CommandLine.Clauses
import CaretQuery.Proofs.Json.RoundTrip
import Mathlib

/-! # What commands leave

A command that succeeds leaves data of a known form, without warnings, and
exits with 0. A command that fails exits with something else. The numbers in
what is reported are below any bound on the lengths of the texts that clauses
are read from.
-/
namespace CaretQuery.CommandLine

open Json (IsPlain ArePlain MembersPlain)

variable {bound : Nat}

/-! ## Plain values -/

theorem arePlain_map {f : α → Json} (h : ∀ a, (f a).IsPlain bound) (as : List α) :
    ArePlain bound (as.map f) := by
  induction as with
  | nil => trivial
  | cons a as ih => exact ⟨h a, ih⟩

theorem isPlain_ofOption {f : α → Json} {a : Option α} (h : ∀ x ∈ a, (f x).IsPlain bound) :
    (Json.ofOption f a).IsPlain bound := by
  cases a with
  | none => trivial
  | some x => exact h x rfl

theorem isPlain_str (s : String) : (Json.str s).IsPlain bound := trivial

/-! ## Failures -/

namespace Failure

/-- A failure that does not exit with 0, with plain details. -/
structure IsRegular (bound : Nat) (failure : Failure) : Prop where
  exitCode_ne_zero : failure.exitCode ≠ 0
  isPlain : failure.info.toJson.IsPlain bound

theorem isPlain_toJson {info : ErrorInfo}
    (h : ∀ details ∈ info.details, (Json.object details).IsPlain bound) :
    info.toJson.IsPlain bound :=
  ⟨(by decide : ["type", "message", "hint", "details"].Nodup), isPlain_str _, isPlain_str _,
    isPlain_ofOption fun _ _ => isPlain_str _, isPlain_ofOption h, trivial⟩

theorem isRegular_usage (message : String) (hint : Option String) :
    (usage message hint).IsRegular bound :=
  ⟨(by decide : (2 : Int) ≠ 0), isPlain_toJson nofun⟩

theorem isRegular_fileExists (message : String) : (fileExists message).IsRegular bound :=
  ⟨(by decide : (2 : Int) ≠ 0), isPlain_toJson nofun⟩

theorem isRegular_config (message : String) : (config message).IsRegular bound :=
  ⟨(by decide : (2 : Int) ≠ 0), isPlain_toJson nofun⟩

theorem isRegular_unexpected (kind message : String) : (unexpected kind message).IsRegular bound :=
  ⟨(by decide : (1 : Int) ≠ 0), isPlain_toJson nofun⟩

theorem isRegular_ofLoadFault (path : Path) (fault : Config.LoadFault) :
    (ofLoadFault path fault).IsRegular bound := by
  cases fault with
  | config fault => exact isRegular_config _
  | _ => exact isRegular_unexpected _ _

theorem clauseDetail_cases (bound : Nat) (clause : Value) :
    clauseDetail clause = [] ∨
      ∃ v : Json, v.IsPlain bound ∧ clauseDetail clause = [("clause", v)] := by
  rw [clauseDetail.eq_def]
  split
  next => exact .inl rfl
  next =>
    split
    next s _ => exact .inr ⟨.str s, trivial, rfl⟩
    next =>
      have hitems :
          (Json.array ((clauseItems clause).map fun item => .str item.text)).IsPlain bound :=
        arePlain_map (fun item : Value => isPlain_str item.text) _
      exact .inr ⟨_, hitems, rfl⟩

theorem isRegular_ofBuildError {e : BuildError} (hfault : e.fault ≠ .longInteger)
    (h : ∀ i ∈ e.index, i < bound) : (ofBuildError e).IsRegular bound := by
  rw [ofBuildError_of_ne hfault]
  refine ⟨(by decide : (2 : Int) ≠ 0), isPlain_toJson ?_⟩
  rintro details ⟨⟩
  have hindex : ∀ i ∈ e.index, (Json.int (Int.ofNat i)).IsPlain bound := fun i hi => h i hi
  rcases clauseDetail_cases bound e.clause with hclause | ⟨v, hv, hclause⟩ <;>
    cases hi : e.index with
    | none => simp_all [queryDetails, IsPlain, MembersPlain]
    | some i => simp_all [queryDetails, IsPlain, MembersPlain]

end Failure

/-! ## Data -/

/-- The data that a command leaves when it succeeds. -/
inductive Command.Leaves : Command → Json → Prop
  | query {a : BuildArguments} (query : Query) : Leaves (.build a) (queryData query)
  | operators (table : OperatorTable) : Leaves .operators (.array (table.rows.map operatorRow))
  | path (text : String) (isPresent : Bool) :
      Leaves .configPath (.object [("path", .str text), ("exists", .bool isPresent)])
  | created {force : Bool} (text : String) (overwritten : Bool) :
      Leaves (.configInit force)
        (.object [("path", .str text), ("created", .bool true), ("overwritten", .bool overwritten)])
  | version (host : Host) : Leaves .version (versionData host)

theorem Command.Leaves.isPlain {c : Command} {data : Json} (h : c.Leaves data) :
    data.IsPlain bound := by
  cases h with
  | query query => simp [queryData, queryParams, IsPlain, MembersPlain]
  | operators table =>
    refine arePlain_map (fun op => ?_) table.rows
    exact ⟨(by decide : ["name", "queryOperator", "requiresValue", "description"].Nodup),
      trivial, trivial, trivial, isPlain_ofOption fun _ _ => trivial, trivial⟩
  | path text isPresent => simp [IsPlain, MembersPlain]
  | created text overwritten => simp [IsPlain, MembersPlain]
  | version host => simp [versionData, IsPlain, MembersPlain]

/-- How a command ends: it leaves its data, or a failure that is reported. -/
def Command.Ends (bound : Nat) (c : Command) : Except Failure Outcome → Prop
  | .ok outcome => ∃ data, c.Leaves data ∧ outcome = { data }
  | .error failure => failure.IsRegular bound

def Command.clauseTexts (c : Command) (files : Files) (stdin : List UInt8) : List String :=
  match c with
  | .build a => a.clauseTexts files stdin
  | _ => []

theorem ends_build {a : BuildArguments} {path : Path} {stdin : List UInt8} {files : Files}
    (htexts : ∀ text ∈ a.clauseTexts files stdin, text.length < bound)
    {result : Except Failure Outcome} (h : a.Ends path stdin files result) :
    (Command.build a).Ends bound result := by
  cases h with
  | built query => exact ⟨_, .query query, rfl⟩
  | stopped hstops =>
    cases hstops with
    | usage message hint => exact Failure.isRegular_usage message hint
    | _ => exact Failure.isRegular_unexpected _ _
  | unloaded hload => exact Failure.isRegular_ofLoadFault path _
  | refused hfault hindex =>
    refine Failure.isRegular_ofBuildError hfault fun i hi => ?_
    obtain ⟨text, htext, hlength⟩ := hindex i hi
    exact hlength.trans_lt (htexts text htext)

theorem ends_init (path : Path) (force : Bool) (j : Log.Journal) :
    (Command.configInit force).Ends bound (performInit path force j).1 := by
  rw [performInit]
  split
  next => exact Failure.isRegular_unexpected _ _
  next files hfiles =>
    split
    next failure hwrite =>
      rw [writeTemplate] at hwrite
      split at hwrite
      next => cases hwrite; exact Failure.isRegular_unexpected _ _
      next =>
        split at hwrite
        next => cases hwrite; exact Failure.isRegular_fileExists _
        next =>
          split at hwrite
          next => cases hwrite; exact Failure.isRegular_unexpected _ _
          next => cases hwrite
    next overwritten files hwrite => exact ⟨_, .created _ _, rfl⟩

theorem Command.ends_perform (host : Host) (path : Path) (j : Log.Journal) (c : Command)
    (htexts : ∀ text ∈ c.clauseTexts j.files host.stdin, text.length < bound) :
    c.Ends bound (c.perform host path j).1 := by
  cases c with
  | build a => exact ends_build htexts (perform_ends a path host.stdin j)
  | operators =>
    rw [Command.perform, performOperators, loadLogged]
    cases Config.Cache.load ⟨path, none⟩ j.files with
    | error fault => exact Failure.isRegular_ofLoadFault path fault
    | ok loaded => exact ⟨_, .operators _, rfl⟩
  | configPath =>
    rw [Command.perform, configPathOutcome]
    cases j.files.isPresent path with
    | error fault => exact Failure.isRegular_unexpected _ _
    | ok isPresent => exact ⟨_, .path _ _, rfl⟩
  | configInit force => exact ends_init path force j
  | version => exact ⟨_, .version host, rfl⟩

end CaretQuery.CommandLine
