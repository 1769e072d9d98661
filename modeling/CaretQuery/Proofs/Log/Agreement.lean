import CaretQuery.Proofs.Log.Nesting

/-! # Journals that write the same files

What goes to standard error depends on the verbosity, what goes into a log file
does not. Two journals with the same files whose loggers send every record to
the same files keep having the same files.
-/
namespace CaretQuery.Log.Journal

variable {j k : Journal} {r : Record}

/-- The places other than standard error that take a record. -/
def fileSinks (s : LoggerState) (r : Record) : List Sink :=
  (sinksFor s r).filter fun sink => sink != .stderr

/-- Two journals write the same into files. -/
structure Agrees (j k : Journal) : Prop where
  clock : j.clock = k.clock
  files : j.files = k.files
  fileSinks : ∀ r, fileSinks j.logger r = fileSinks k.logger r

/-- The files after a record has been written to a sink. -/
def filesAfter (clock : String) (r : Record) (files : Files) : Sink → Files
  | .file path => (files.append path (fileLine clock r)).toOption.getD files
  | .stderr | .elsewhere => files

theorem files_deliver (r : Record) (j : Journal) (sink : Sink) :
    (deliver r j sink).files = filesAfter j.clock r j.files sink := by
  cases sink <;> rfl

theorem clock_deliver (r : Record) (j : Journal) (sink : Sink) :
    (deliver r j sink).clock = j.clock := by
  cases sink <;> rfl

/-- Standard error does not count for the files. -/
theorem files_foldl_deliver (r : Record) (sinks : List Sink) (j : Journal) :
    (sinks.foldl (deliver r) j).files =
      (sinks.filter fun sink => sink != .stderr).foldl (filesAfter j.clock r) j.files := by
  induction sinks generalizing j with
  | nil => rfl
  | cons sink sinks ih =>
    rw [List.foldl_cons, ih, files_deliver, clock_deliver]
    cases sink <;> rfl

theorem files_log (j : Journal) (r : Record) :
    (j.log r).files = (Journal.fileSinks j.logger r).foldl (filesAfter j.clock r) j.files :=
  files_foldl_deliver r _ j

/-- A record leaves two journals in agreement. -/
theorem Agrees.log (h : j.Agrees k) (r : Record) : (j.log r).Agrees (k.log r) := by
  have hfiles : (j.log r).files = (k.log r).files := by
    rw [files_log, files_log, h.clock, h.files, h.fileSinks]
  obtain ⟨files, stderr, hj⟩ := exists_log_eq j r
  obtain ⟨others, otherErr, hk⟩ := exists_log_eq k r
  refine ⟨?_, hfiles, ?_⟩
  · rw [hj, hk]
    exact h.clock
  · rw [hj, hk]
    exact h.fileSinks

theorem Agrees.logAll (h : j.Agrees k) (records : List Record) :
    (j.logAll records).Agrees (k.logAll records) := by
  induction records generalizing j k with
  | nil => exact h
  | cons r records ih => exact ih (h.log r)

theorem Agrees.withFiles (h : j.Agrees k) (files : Files) :
    Agrees { j with files } { k with files } :=
  ⟨h.clock, rfl, h.fileSinks⟩

/-! ## Configurations -/

theorem fileSinks_install_stderr (j : Journal) (threshold level : Level) (r : Record) :
    fileSinks (j.install threshold [(level, .stderr)]).logger r = [] := by
  rw [fileSinks, List.filter_eq_nil_iff]
  intro sink hsink
  by_cases hlevel : level ≤ r.level <;> simp_all [sinksFor, install]

/-- A log file takes every record from the least level on, whatever standard error takes. -/
theorem fileSinks_install_file (j : Journal) (level : Level) (path : Path) (r : Record) :
    fileSinks (j.install .debug [(level, .stderr), (.debug, .file path)]).logger r =
      if .debug ≤ r.level then [.file path] else [] := by
  by_cases hdebug : .debug ≤ r.level <;> by_cases hlevel : level ≤ r.level <;>
    simp [fileSinks, sinksFor, install, LoggerState.threshold, hdebug, hlevel]

/-- Configurations with the same log file agree, whatever their verbosity. -/
theorem agrees_configure (j : Journal) {s t : Settings} (h : s.target = t.target) :
    (j.configure s).Agrees (j.configure t) := by
  rw [configure, configure, h]
  cases t.target with
  | none =>
    refine ⟨rfl, rfl, fun r => ?_⟩
    rw [fileSinks_install_stderr, fileSinks_install_stderr]
  | some path =>
    dsimp only
    cases openFile j.files path with
    | error fault =>
      refine ⟨rfl, rfl, fun r => ?_⟩
      rw [fileSinks_install_stderr, fileSinks_install_stderr]
    | ok files =>
      refine ⟨rfl, rfl, fun r => ?_⟩
      rw [levelFor_min_debug, levelFor_min_debug, fileSinks_install_file, fileSinks_install_file]

end CaretQuery.Log.Journal
