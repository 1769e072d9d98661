import CaretQuery.Proofs.CommandLine.Flags
import CaretQuery.Proofs.CommandLine.Formats
import CaretQuery.Proofs.Log.Agreement

/-! # Diagnostics and results

Quiet and verbosity reach the level of the loggers and the lines on standard
error, and nothing else. A command performs the same on journals that agree, its
end is the same but for those lines, and so are the files that a run leaves.
-/
namespace CaretQuery.CommandLine

open Log (Journal)

variable {j k : Journal} {host : Host} {g : Globals} {quiet : Bool} {verbosity : Nat}

/-! ## Commands -/

/-- The same result, with journals that agree. -/
inductive SameLogged {α : Type} : Logged α → Logged α → Prop
  | both (result : Except Failure α) {j k : Journal} (h : j.Agrees k) :
      SameLogged (result, j) (result, k)

theorem sameLogged_build (h : j.Agrees k) (input : QueryInput) :
    SameLogged (buildLogged j input) (buildLogged k input) := by
  rw [buildLogged, buildLogged]
  cases buildQuery input with
  | error e => exact .both _ h
  | ok query => exact .both _ (h.log _)

theorem sameLogged_load (h : j.Agrees k) (cache : Config.Cache) :
    SameLogged (loadLogged cache j) (loadLogged cache k) := by
  rw [loadLogged, loadLogged, h.files]
  cases cache.load k.files with
  | error fault => exact .both _ h
  | ok loaded => exact .both _ (h.logAll _)

/-- What is done with a loaded table is the same if it is so on every two journals that agree. -/
theorem sameLogged_afterLoad {α : Type} (h : j.Agrees k) (cache : Config.Cache)
    {f : OperatorTable → Journal → Logged α}
    (hf : ∀ table {j k : Journal}, j.Agrees k → SameLogged (f table j) (f table k)) :
    SameLogged
      (match loadLogged cache j with
        | (.error failure, j) => (.error failure, j)
        | (.ok table, j) => f table j)
      (match loadLogged cache k with
        | (.error failure, k) => (.error failure, k)
        | (.ok table, k) => f table k) := by
  have hload := sameLogged_load h cache
  generalize loadLogged cache j = x at hload
  generalize loadLogged cache k = y at hload
  cases hload with
  | both result hjournal =>
    cases result with
    | error failure => exact .both _ hjournal
    | ok table => exact hf table hjournal

theorem sameLogged_perform_build (h : j.Agrees k) (a : BuildArguments) (cache : Config.Cache)
    (stdin : List UInt8) : SameLogged (a.perform cache stdin j) (a.perform cache stdin k) := by
  rw [BuildArguments.perform, BuildArguments.perform, h.files]
  cases a.queryInput k.files stdin with
  | error failure => exact .both _ h
  | ok input =>
    dsimp only
    split
    · exact sameLogged_afterLoad h cache fun table _ _ h => sameLogged_build h _
    · exact sameLogged_build h input

theorem sameLogged_operators (h : j.Agrees k) (cache : Config.Cache) :
    SameLogged (performOperators cache j) (performOperators cache k) :=
  sameLogged_afterLoad h cache fun _ _ _ h => .both _ h

theorem sameLogged_init (h : j.Agrees k) (path : Path) (force : Bool) :
    SameLogged (performInit path force j) (performInit path force k) := by
  rw [performInit, performInit, h.files]
  cases k.files.ensureDirectories path.parent with
  | error fault => exact .both _ h
  | ok files =>
    dsimp only
    cases writeTemplate files path force with
    | error failure => exact .both _ (h.withFiles files)
    | ok written => exact .both _ (h.withFiles written.2)

/-- A command does the same on journals that agree. -/
theorem sameLogged_perform (h : j.Agrees k) (host : Host) (path : Path) (c : Command) :
    SameLogged (c.perform host path j) (c.perform host path k) := by
  cases c with
  | build a => exact sameLogged_perform_build h a ⟨path, none⟩ host.stdin
  | operators => exact sameLogged_operators h ⟨path, none⟩
  | configPath =>
    rw [Command.perform, Command.perform, h.files]
    exact .both _ h
  | configInit force => exact sameLogged_init h path force
  | version => exact .both _ h

/-! ## The end of a command -/

/-- Two ends that differ on standard error only. -/
structure Finished.Agrees (x y : Finished) : Prop where
  exitCode : x.exitCode = y.exitCode
  stdout : x.stdout = y.stdout
  failed : x.failed = y.failed

section
variable (format : Format) (quiet quiet' : Bool) (verbosity verbosity' : Int) (heading : Heading)
  (result : Except Failure Outcome)

theorem agrees_conclude :
    (conclude ⟨format, quiet, verbosity⟩ heading result).Agrees
      (conclude ⟨format, quiet', verbosity'⟩ heading result) := by
  cases result with
  | error failure => exact ⟨rfl, rfl, rfl⟩
  | ok outcome =>
    cases format with
    | json => exact ⟨rfl, rfl, rfl⟩
    | table =>
      -- Whether the data can be shown does not depend on the display.
      have hok : (heading.success outcome).ok = true := rfl
      simp only [conclude, Report.shown, hok, if_true]
      cases (heading.success outcome).dataOutput with
      | error fault => exact ⟨rfl, rfl, rfl⟩
      | ok output => exact ⟨rfl, rfl, rfl⟩

theorem agrees_finish :
    (finish ⟨format, quiet, verbosity⟩ heading result).Agrees
      (finish ⟨format, quiet', verbosity'⟩ heading result) := by
  have hconclude := agrees_conclude format quiet quiet' verbosity verbosity' heading result
  simp only [finish, hconclude.stdout, hconclude.failed]
  cases heading.writeFault?
    (conclude ⟨format, quiet', verbosity'⟩ heading result).stdout with
  | none => exact hconclude
  | some fault =>
    dsimp only
    split
    · exact ⟨rfl, rfl, rfl⟩
    · exact agrees_conclude format quiet quiet' verbosity verbosity' heading _

end

/-! ## Runs -/

/-- Two endings that differ on standard error only. -/
inductive SameEnding : Ending → Ending → Prop
  | refused (error : UsageError) : SameEnding (.refused error) (.refused error)
  | finished (exitCode : Int) (stdout : Output) (lines others : List Line) :
      SameEnding (.finished exitCode stdout lines) (.finished exitCode stdout others)

theorem SameEnding.refl (ending : Ending) : SameEnding ending ending := by
  cases ending with
  | refused error => exact .refused error
  | finished exitCode stdout lines => exact .finished exitCode stdout lines lines

/-- Runs with the same ending and the same files. -/
structure SameRun (x y : Ending × Journal) : Prop where
  ending : SameEnding x.1 y.1
  files : x.2.files = y.2.files

theorem sameRun_invocation (h : j.Agrees k) (host : Host) (g : Globals) (quiet : Bool)
    (verbosity : Nat) (i : Invocation) :
    SameRun (i.run host g j) (i.run host { g with quiet, verbosity } k) := by
  have hperform := sameLogged_perform h host (configPath host.environment g.config) i.command
  rw [Invocation.run, Invocation.run]
  dsimp only
  generalize i.command.perform host (configPath host.environment g.config) j = x at hperform ⊢
  generalize i.command.perform host (configPath host.environment g.config) k = y at hperform ⊢
  cases hperform with
  | both result hjournal =>
    have hfinish := agrees_finish i.format g.quiet quiet g.verbosity verbosity
      (host.heading g i.command) result
    rw [Host.heading] at hfinish
    rw [Globals.display, Globals.display, hfinish.exitCode, hfinish.stdout, hfinish.failed]
    refine ⟨.finished _ _ _ _, ?_⟩
    dsimp only
    split
    · exact (hjournal.log _).files
    · exact hjournal.files

theorem sameRun_topic (h : j.Agrees k) (host : Host) (g : Globals) (quiet : Bool)
    (verbosity : Nat) (arguments : List String) (topic : Topic) :
    SameRun (topic.run host g arguments j)
      (topic.run host { g with quiet, verbosity } arguments k) := by
  rw [Topic.run, Topic.run, h.files]
  dsimp only
  cases topic.read k.files g.format arguments with
  | error e => exact ⟨.refused e, h.files⟩
  | ok wish =>
    cases wish with
    | help text => exact ⟨.finished _ _ _ _, h.files⟩
    | version => exact ⟨.finished _ _ _ _, h.files⟩
    | run i => exact sameRun_invocation h host g quiet verbosity i

/-- Diagnostic options added to a command line change neither the exit code nor
standard output nor a file, a log file included. -/
theorem run_addsDiagnostics (host : Host) (files : Files) {arguments longer : List String}
    (h : AddsDiagnostics arguments longer) :
    SameEnding (run host files arguments).1 (run host files longer).1 ∧
      (run host files arguments).2 = (run host files longer).2 := by
  have hglobals := h.readGlobals files
  rw [run, run]
  generalize readGlobals files arguments = x at hglobals ⊢
  generalize readGlobals files longer = y at hglobals ⊢
  cases hglobals with
  | error e => exact ⟨.refused e, rfl⟩
  | ok hwish =>
    cases hwish with
    | help text => exact ⟨.refl _, rfl⟩
    | version => exact ⟨.refl _, rfl⟩
    | run g quiet verbosity arguments =>
      cases arguments with
      | nil => exact ⟨.refl _, rfl⟩
      | cons name rest =>
        dsimp only
        cases findTopic files name rest with
        | error e => exact ⟨.refused e, rfl⟩
        | ok wish =>
          cases wish with
          | help text => exact ⟨.refl _, rfl⟩
          | version => exact ⟨.refl _, rfl⟩
          | run topic =>
            have htarget : g.logSettings.target =
                (Globals.logSettings { g with quiet, verbosity }).target := rfl
            have hrun := sameRun_topic (Log.Journal.agrees_configure
              { clock := host.clock, files } htarget) host g quiet verbosity rest topic
            exact ⟨hrun.ending, hrun.files⟩

/-- A build that fails, with a log file, once as it is and once quietly with all details. -/
theorem run_addsDiagnostics_build :
    let arguments := ["--log-file", "log", "build", "--filter", "[]"]
    let longer := ["-vv", "--log-file", "log", "--quiet", "build", "--filter", "[]"]
    AddsDiagnostics arguments longer ∧
      Reaches {} {} arguments { logFile := some "log" } ⟨.build { filter := some "[]" }, .table⟩ ∧
      SameEnding (run {} {} arguments).1 (run {} {} longer).1 ∧
      (run {} {} arguments).2 = (run {} {} longer).2 := by
  intro arguments longer
  have hletters : IsDiagnostic "-vv" := @IsDiagnostic.letters 'v' ['v'] (by simp)
  have hfile : IsOption "--log-file" (.awaiting "--log-file") := ⟨by cbv, by decide, by cbv⟩
  have hadds : AddsDiagnostics arguments longer :=
    .added hletters (.valued hfile (.added .quiet (.refl _)))
  have hreaches : Reaches {} {} arguments { logFile := some "log" }
      ⟨.build { filter := some "[]" }, .table⟩ :=
    ⟨"build", ["--filter", "[]"], .command .build, by cbv, rfl, by cbv⟩
  exact ⟨hadds, hreaches, run_addsDiagnostics {} {} hadds⟩

end CaretQuery.CommandLine
