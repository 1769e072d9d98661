import CaretQuery.Proofs.CommandLine.Formats
import CaretQuery.Proofs.Text.Utf8
import Mathlib

/-! # Builds never fail for an internal reason

A build whose files hold text, whose integers are short enough, and whose
configuration can be looked up ends with a query, or with a fault of its usage,
of its query or of its configuration, unless what is to be written holds a lone
surrogate.
-/
namespace CaretQuery.CommandLine

/-- What a build reads is in order as far as its own faults do not say: the filter file and the
configuration hold text, integers in the clauses and in the configuration are short enough to be
converted, and it can be found out whether the configuration is there. -/
structure BuildArguments.IsReadable (a : BuildArguments) (path : Path) (stdin : List UInt8)
    (files : Files) : Prop where
  filterFile : ∀ file content, a.filterFile = some file →
    filterContent files stdin file = .ok content → ∃ text, content = Text.Utf8.encode text
  clauses : ∀ text ∈ a.clauseTexts files stdin, ∀ count,
    Json.read text ≠ .error (.tooManyDigits count)
  isPresent : ∃ present, files.isPresent path = .ok present
  config : ∀ content, files.read path = .ok content → ∃ text, content = Text.Utf8.encode text ∧
    ∀ count, Toml.read text.toList ≠ .error (.tooManyDigits count)

/-- The failures that are the caller's to mend. -/
structure Failure.IsOfCaller (failure : Failure) : Prop where
  exitCode : failure.exitCode = 2
  kind : failure.info.kind ∈ ["usage_error", "validation_error", "config_error"]

variable {a : BuildArguments} {path : Path} {stdin : List UInt8} {files : Files}

theorem isOfCaller_of_stops (h : a.IsReadable path stdin files) {failure : Failure}
    (hstops : a.Stops files stdin failure) : failure.IsOfCaller := by
  cases hstops with
  | usage message hint => exact ⟨rfl, by simp [Failure.usage, Failure.info]⟩
  | tooManyDigits htext hread => exact absurd hread (h.clauses _ htext _)
  | undecodable hfile hread hdecode =>
    obtain ⟨text, rfl⟩ := h.filterFile _ _ hfile hread
    rw [Text.Utf8.decode_encode] at hdecode
    cases hdecode

/-- Of a configuration that is readable only the document may be at fault. -/
theorem isOfCaller_of_load (h : a.IsReadable path stdin files) {fault : Config.LoadFault}
    (hload : Config.load files path = .error fault) :
    (Failure.ofLoadFault path fault).IsOfCaller := by
  have hconfig (fault : ConfigFault) : (Failure.ofLoadFault path (.config fault)).IsOfCaller :=
    ⟨rfl, by simp [Failure.ofLoadFault, Failure.info]⟩
  obtain ⟨present, hpresent⟩ := h.isPresent
  rw [Config.load, hpresent] at hload
  cases present with
  | false => cases hload
  | true =>
    dsimp only at hload
    split at hload
    next unreadable hread =>
      cases hload
      exact hconfig _
    next content hread =>
      obtain ⟨text, rfl, hdigits⟩ := h.config content hread
      rw [Config.tableOfContent, Text.Utf8.decode_encode] at hload
      dsimp only at hload
      split at hload
      next => cases hload; exact hconfig _
      next count htoml => exact absurd htoml (hdigits count)
      next document htoml =>
        cases htable : Config.tableOfDocument document with
        | ok table => rw [htable] at hload; cases hload
        | error documentFault =>
          rw [htable] at hload
          cases hload
          exact hconfig _

/-- A build that has ended with a query or with a fault of its caller, as it is shown, or because
what is to be written holds a lone surrogate from the JSON that has been read. -/
inductive EndsSafely (display : Display) (heading : Heading) (finished : Finished) : Prop
  | query (query : Query) (hexit : finished.exitCode = 0)
      (hshown : conclude display heading (.ok { data := queryData query }) = finished)
  | refused (failure : Failure) (hexit : finished.exitCode = 2)
      (hkind : failure.info.kind ∈ ["usage_error", "validation_error", "config_error"])
      (hshown : conclude display heading (.error failure) = finished)
  | unwritten {result : Except Failure Outcome}
      (hunwritten : finished.IsUnwritten display heading result)
      (hfinish : finish display heading result = finished)

theorem endsSafely_of_ends (h : a.IsReadable path stdin files) {result : Except Failure Outcome}
    (hends : a.Ends path stdin files result) (display : Display) (heading : Heading)
    (hcommand : heading.command = "build") :
    EndsSafely display heading (finish display heading result) := by
  rcases finish_cases display heading result with hfinish | hunwritten
  case inr => exact .unwritten hunwritten rfl
  rw [hfinish]
  have hrefused (failure : Failure) (hcaller : failure.IsOfCaller) :
      EndsSafely display heading (conclude display heading (.error failure)) :=
    .refused failure hcaller.exitCode hcaller.kind rfl
  cases hends with
  | built query =>
    have hleft : (Command.build a).Ends 0 (.ok { data := queryData query }) :=
      ⟨_, .query query, rfl⟩
    exact .query query (exitCode_conclude hcommand hleft) rfl
  | stopped hstops => exact hrefused _ (isOfCaller_of_stops h hstops)
  | unloaded hload => exact hrefused _ (isOfCaller_of_load h hload)
  | refused hfault hindex =>
    rw [Failure.ofBuildError_of_ne hfault]
    exact hrefused _ ⟨rfl, by simp [Failure.info]⟩

variable {host : Host} {arguments : List String} {g : Globals} {format : Format}

end CaretQuery.CommandLine
