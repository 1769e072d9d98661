import CaretQuery.Proofs.CommandLine.Build
import CaretQuery.Proofs.CommandLine.Reports
import Mathlib

/-! # The same run for people and as JSON

A command line reaches a command when its arguments are in order. Two command
lines that reach the same command under settings that differ in the format only
end with the same exit code and the same files, if the report can be written. As
JSON the end is one line that is read back as the report; for people a query is
written by itself, and nothing is written to standard output when the command
fails.
-/
namespace CaretQuery.CommandLine

open Json (IsPlain ArePlain MembersPlain)

variable {bound : Nat}

/-! ## Reaching a command -/

/-- The journal of a run when logging has been configured. -/
def Host.journal (host : Host) (files : Files) (g : Globals) : Log.Journal :=
  Log.Journal.configure { clock := host.clock, files } g.logSettings

/-- A command line is in order and asks for a command under settings. -/
def Reaches (host : Host) (files : Files) (arguments : List String) (g : Globals)
    (i : Invocation) : Prop :=
  ∃ name rest topic, readGlobals files arguments = .ok (.run (g, name :: rest)) ∧
    findTopic files name rest = .ok (.run topic) ∧
    topic.read (host.journal files g).files g.format rest = .ok (.run i)

variable {host : Host} {files : Files} {arguments : List String} {g : Globals} {i : Invocation}

/-- What a run that reaches a command does. Restoring the loggers leaves the files alone. -/
theorem run_of_reaches (h : Reaches host files arguments g i) :
    run host files arguments =
      ((i.run host g (host.journal files g)).1, (i.run host g (host.journal files g)).2.files) := by
  obtain ⟨name, rest, topic, hglobals, htopic, hread⟩ := h
  rw [run, hglobals]
  simp only [htopic]
  rw [Host.journal] at hread ⊢
  rw [Topic.run, hread]
  rfl

/-- The journal after a command. -/
def journalAfter (command : String) (failed : Bool) (j : Log.Journal) : Log.Journal :=
  if failed then j.log (failureRecord command) else j

/-- What the reports of a command have in common under settings. -/
def Host.heading (host : Host) (g : Globals) (c : Command) : Heading :=
  ⟨c.name, (configPath host.environment g.config).text, [], host.durationMs, c.readsJson⟩

/-- A run that reaches a command ends as the command does. -/
theorem run_of_finish (h : Reaches host files arguments g i) {result : Except Failure Outcome}
    {j : Log.Journal} {finished : Finished}
    (hperform : i.command.perform host (configPath host.environment g.config)
      (host.journal files g) = (result, j))
    (hfinish : finish (g.display i.format) (host.heading g i.command) result = finished) :
    run host files arguments =
      (.finished finished.exitCode finished.stdout
        (logLines (journalAfter i.command.name finished.failed j) ++ finished.stderr),
          (journalAfter i.command.name finished.failed j).files) := by
  rw [run_of_reaches h, Invocation.run]
  dsimp only
  rw [hperform]
  rw [Host.heading] at hfinish
  dsimp only
  rw [hfinish]
  rfl

/-! ## Ending a command -/

/-- The report of the end of a command. -/
def Heading.report (h : Heading) : Except Failure Outcome → Report
  | .ok outcome => h.success outcome
  | .error failure => h.failure failure

def exitCodeOf : Except Failure Outcome → Int
  | .ok outcome => outcome.exitCode
  | .error failure => failure.exitCode

def hasFailed : Except Failure Outcome → Bool
  | .ok _ => false
  | .error _ => true

theorem conclude_json {display : Display} (h : display.format = .json) (heading : Heading)
    (result : Except Failure Outcome) :
    ∃ lines, conclude display heading result =
      ⟨exitCodeOf result, .plain (heading.report result).line, lines, hasFailed result⟩ := by
  cases result with
  | error failure => exact ⟨_, by rw [conclude, fail, h]; rfl⟩
  | ok outcome => exact ⟨_, by rw [conclude, Report.shown, h]; rfl⟩

/-- The data of a command that succeeds can be shown to people, a query by itself. -/
theorem Command.Leaves.exists_dataOutput {c : Command} {data : Json} (h : c.Leaves data)
    {heading : Heading} (hcommand : heading.command = c.name) :
    ∃ output, (heading.success { data }).dataOutput = .ok output ∧
      ∀ a, c = .build a →
        ∃ query, data = queryData query ∧ output = .plain (query.text ++ "\n") := by
  cases h with
  | query query =>
    refine ⟨.plain (query.text ++ "\n"), ?_, fun a _ => ⟨query, rfl, rfl⟩⟩
    simp [Report.dataOutput, Heading.success, hcommand, queryData, memberText_cons, Command.name]
  | operators table => exact ⟨_, rfl, by rintro a ⟨⟩⟩
  | path text isPresent =>
    refine ⟨.plain (Screen.shown text), ?_, by rintro a ⟨⟩⟩
    simp [Report.dataOutput, Heading.success, hcommand, memberText_cons, Command.name]
  | created text overwritten =>
    refine ⟨.screen (Screen.frame ("Initialized config at " ++ text)), ?_, by rintro a ⟨⟩⟩
    simp [Report.dataOutput, Heading.success, hcommand, memberText_cons, Command.name]
  | version host =>
    refine ⟨.plain (Screen.shown programVersion), ?_, by rintro a ⟨⟩⟩
    simp [Report.dataOutput, Heading.success, hcommand, versionData, versionText, Json.member?,
      Except.map, Command.name]

/-- What the end of a command looks like to people. -/
theorem conclude_table {display : Display} (h : display.format = .table) {c : Command}
    (heading : Heading) (hcommand : heading.command = c.name) {result : Except Failure Outcome}
    (hends : c.Ends bound result) :
    ∃ output lines,
      conclude display heading result = ⟨exitCodeOf result, output, lines, hasFailed result⟩ ∧
      (∀ outcome, result = .ok outcome → ∀ a, c = .build a →
        ∃ query, outcome.data = queryData query ∧ output = .plain (query.text ++ "\n")) ∧
      (exitCodeOf result ≠ 0 → output = .plain "") := by
  cases result with
  | error failure =>
    exact ⟨.plain "", _, by rw [conclude, fail, h]; rfl, nofun, fun _ => rfl⟩
  | ok outcome =>
    obtain ⟨data, hleaves, rfl⟩ := hends
    obtain ⟨output, houtput, hquery⟩ := hleaves.exists_dataOutput hcommand
    have hshown : (heading.success { data }).shown display = .ok ⟨output, []⟩ := by
      have hok : (heading.success { data }).ok = true := rfl
      rw [Report.shown, h]
      simp [hok, houtput, Except.map]
    refine ⟨output, _, by rw [conclude, hshown]; rfl, ?_, fun hcode => absurd rfl hcode⟩
    rintro _ ⟨⟩
    exact hquery

/-- A command exits with the code of its result, whatever is shown. -/
theorem exitCode_conclude {display : Display} {c : Command} {heading : Heading}
    (hcommand : heading.command = c.name) {result : Except Failure Outcome}
    (hends : c.Ends bound result) :
    (conclude display heading result).exitCode = exitCodeOf result := by
  cases h : display.format with
  | table =>
    obtain ⟨output, lines, hconclude, -⟩ := conclude_table h heading hcommand hends
    rw [hconclude]
  | json =>
    obtain ⟨lines, hconclude⟩ := conclude_json h heading result
    rw [hconclude]

/-- A command ends as its result says if the report of it can be written, for people as well. -/
theorem finish_of_report {display : Display} {c : Command} {heading : Heading}
    (hcommand : heading.command = c.name) (hjson : heading.readsJson = c.readsJson)
    {result : Except Failure Outcome} (hends : c.Ends bound result)
    (hline : c.readsJson = true → Text.isEncodable (heading.report result).line = true) :
    finish display heading result = conclude display heading result := by
  cases hreads : c.readsJson with
  | false => exact finish_of_not_readsJson (hjson.trans hreads)
  | true =>
    cases h : display.format with
    | json =>
      obtain ⟨lines, hconclude⟩ := conclude_json h heading result
      exact finish_of_plain (by rw [hconclude]) fun _ => hline hreads
    | table =>
      obtain ⟨output, lines, hconclude, hquery, -⟩ := conclude_table h heading hcommand hends
      cases result with
      | error failure => exact finish_failure_of_table h heading failure
      | ok outcome =>
        cases c with
        | build a =>
          obtain ⟨query, hdata, rfl⟩ := hquery outcome rfl a rfl
          exact finish_of_plain (by rw [hconclude])
            fun _ => isEncodable_line (isEncodable_of_report hdata (hline hreads))
        | _ => cases hreads

/-! ## The report as JSON -/

/-- What the members of a report say about a run that exits with a code. -/
structure Envelope (exitCode : Int) (members : List (String × Json)) : Prop where
  keys : members.map Prod.fst = ["ok", "command", "data", "warnings", "meta", "error"]
  ok : Json.member? members "ok" = some (.bool (exitCode == 0))
  error : Json.member? members "error" = some .null ↔ exitCode = 0
  data : exitCode ≠ 0 → Json.member? members "data" = some .null

/-- A report says whether the command has failed, and holds what the command leaves. -/
theorem exists_envelope {c : Command} (heading : Heading) {result : Except Failure Outcome}
    (hends : c.Ends bound result) :
    ∃ members, (heading.report result).toJson = .object members ∧
      Envelope (exitCodeOf result) members ∧
      ∀ outcome, result = .ok outcome → Json.member? members "data" = some outcome.data := by
  cases result with
  | error failure =>
    have hcode : failure.exitCode ≠ 0 := hends.exitCode_ne_zero
    refine ⟨_, rfl, ⟨rfl, ?_, iff_of_false nofun hcode, fun _ => rfl⟩, nofun⟩
    rw [exitCodeOf, beq_false_of_ne hcode]
    rfl
  | ok outcome =>
    obtain ⟨data, hleaves, rfl⟩ := hends
    refine ⟨_, rfl, ⟨rfl, rfl, iff_of_true rfl rfl, fun hcode => absurd rfl hcode⟩, ?_⟩
    rintro _ ⟨⟩
    rfl

theorem isPlain_report {c : Command} {heading : Heading} (hduration : heading.durationMs < bound)
    {result : Except Failure Outcome} (hends : c.Ends bound result) :
    (heading.report result).toJson.IsPlain bound := by
  have hkeys : ["ok", "command", "data", "warnings", "meta", "error"].Nodup := by decide
  have hinfo {r : Report} (h : r.durationMs = heading.durationMs) : r.runInfo.IsPlain bound :=
    ⟨(by decide : ["durationMs", "configPath"].Nodup), by rw [h]; exact hduration,
      isPlain_ofOption fun _ _ => trivial, trivial⟩
  have htexts (texts : List String) : (Json.array (texts.map .str)).IsPlain bound :=
    arePlain_map isPlain_str texts
  cases result with
  | error failure =>
    exact ⟨hkeys, trivial, trivial, trivial, htexts _, hinfo rfl, hends.isPlain, trivial⟩
  | ok outcome =>
    obtain ⟨data, hleaves, rfl⟩ := hends
    exact ⟨hkeys, trivial, trivial, hleaves.isPlain, htexts _, hinfo rfl, trivial, trivial⟩

/-- The numbers that a report can hold are below a bound: the duration, and the position of a
clause, which is at most the length of the text that it is read from. -/
def NumbersBelow (bound : Nat) (host : Host) (files : Files) (c : Command) : Prop :=
  host.durationMs < bound ∧ ∀ text ∈ c.clauseTexts files host.stdin, text.length < bound

theorem exists_numbersBelow (host : Host) (files : Files) (c : Command) :
    ∃ bound, NumbersBelow bound host files c := by
  refine ⟨host.durationMs + ((c.clauseTexts files host.stdin).map String.length).sum + 1, by omega,
    fun text htext => ?_⟩
  have hsum := List.le_sum_of_mem (List.mem_map_of_mem htext (f := String.length))
  omega

/-! ## Both runs -/

/-- Ends of two runs of a command that tell the same, once to people and once as JSON. The line of
JSON is read back if its numbers are short. -/
inductive SameStory (c : Command) (short : Prop) : Ending × Files → Ending × Files → Prop
  | told {exitCode : Int} {output : Output} {lines jsonLines : List Line} {body : String}
      {members : List (String × Json)} {after : Files}
      (hline : Json.IsLine body.toList)
      (hwritten : body = (Json.object members).write)
      (hread : short → Json.read (body ++ "\n") = .ok (.object members))
      (henvelope : Envelope exitCode members)
      (hquery : exitCode = 0 → ∀ a, c = .build a → ∃ query mode : String,
        output = .plain (query ++ "\n") ∧
        Json.member? members "data" = some (.object [("query", .str query), ("mode", .str mode),
          ("params", .object [("sysparm_query", .str query)])]))
      (hfailed : exitCode ≠ 0 → output = .plain "") :
      SameStory c short (.finished exitCode output lines, after)
        (.finished exitCode (.plain (body ++ "\n")) jsonLines, after)

/-- The report of a command on some files. -/
def Host.report (host : Host) (files : Files) (g : Globals) (c : Command) : Report :=
  (host.heading g c).report
    (c.perform host (configPath host.environment g.config) (host.journal files g)).1

/-- A line separator in a match stands in the line of JSON as it is. -/
theorem run_build_line_separator :
    ∃ text lines files, run {} {} ["build", "--json", "--match-exact", "a=\u2028"] =
      (.finished 0 (.plain text) lines, files) ∧ '\u2028' ∈ text.toList := by
  let a : BuildArguments := { exact := ["a=\u2028"] }
  have hreach : Reaches {} {} ["build", "--json", "--match-exact", "a=\u2028"] {}
      ⟨.build a, .json⟩ :=
    ⟨"build", ["--json", "--match-exact", "a=\u2028"], .command .build, by cbv, rfl, by cbv⟩
  let input : QueryInput := { exact := .list [.tuple [.str "a", .str "\u2028"]] }
  let query : Query := ⟨.basic, "ORDERBYDESCopened_at^a=\u2028"⟩
  have hinput : a.queryInput {} [] = .ok input := by rfl
  have hbuild : buildQuery input = .ok query := by rfl
  have hperform : (Command.build a).perform {} (configPath {} none) (Host.journal {} {} {}) =
      (.ok { data := queryData query }, Host.journal {} {} {}) := by
    have hbasic : input.isAdvanced = false := rfl
    have hgiven : a.queryInput (Host.journal {} {} {}).files [] = .ok input := hinput
    rw [Command.perform, BuildArguments.perform]
    simp only [hgiven, hbasic, Bool.false_eq_true, if_false]
    exact buildLogged_of_ok (Log.Journal.isQuiet_configure rfl) hbuild
  have hline : '\u2028' ∈ ((Host.heading {} {} (.build a)).report
      (.ok { data := queryData query })).line.toList :=
    mem_line_of_query rfl (by decide) (by decide : '\u2028' ∈ query.text.toList)
  exact ⟨_, _, _, run_of_finish hreach hperform (finish_of_not_readsJson rfl), hline⟩

/-- A lone surrogate in the place of a join. -/
def loneJoin : BuildError :=
  let lone := String.ofList [Text.loneSurrogate 0xD800]
  ⟨.unsupportedJoin (.str lone), .str lone, some 0⟩

theorem perform_loneJoin {sort : String} {items : List Json}
    (hsort : readClauses "--sort" sort = .ok (.array items)) :
    (Command.build { filter := some "\"\\ud800\"", sort := some sort }).perform {}
      (configPath {} none) (Host.journal {} {} {}) =
        (.error (.ofBuildError loneJoin), Host.journal {} {} {}) := by
  have hread : Json.read "\"\\ud800\"" =
      .ok (.str (String.ofList [Text.loneSurrogate 0xD800])) := by cbv
  have hfilter : readClauses "--filter" "\"\\ud800\"" =
      .ok (.str (String.ofList [Text.loneSurrogate 0xD800])) := by
    rw [readClauses, hread]
    rfl
  let input : QueryInput :=
    { filter := .str (String.ofList [Text.loneSurrogate 0xD800]),
      sort := (Json.array items).toValue }
  have hinput : BuildArguments.queryInput
      { filter := some "\"\\ud800\"", sort := some sort } {} [] = .ok input := by
    simp [BuildArguments.queryInput, BuildArguments.filterClauses, BuildArguments.sortClauses,
      hfilter, hsort, readMatches, matchesValue, BuildArguments.valueOf, Json.toValue, bind,
      Except.bind, Except.map, input]
  have hquery : buildQuery { input with operators := some .builtin } =
      .error (.build loneJoin) := by rfl
  have hquiet : (Host.journal {} {} {}).IsQuiet := Log.Journal.isQuiet_configure rfl
  have hbuild : (Command.build { filter := some "\"\\ud800\"", sort := some sort }).perform {}
      (configPath {} none) (Host.journal {} {} {}) =
        buildLogged (Host.journal {} {} {}) { input with operators := some .builtin } :=
    perform_of_absent hinput rfl isPresent_nowhere hquiet
  rw [hbuild, buildLogged, hquery]
  rfl

/-- Nothing is written of it as JSON. -/
theorem finish_loneJoin {heading : Heading} (hreads : heading.readsJson = true) :
    finish (Globals.display {} .json) heading (.error (.ofBuildError loneJoin)) = crashed := by
  have hmem : Text.loneSurrogate 0xD800 ∈ [Text.loneSurrogate 0xD800] := List.mem_singleton_self _
  have hlost : Text.isEncodable (heading.report (.error (.ofBuildError loneJoin))).line = false :=
    isEncodable_report_of_clause rfl (List.mem_of_mem_getLast? rfl) (by rwa [String.toList_ofList])
      (by decide)
  exact finish_eq_crashed hreads rfl rfl hlost

end CaretQuery.CommandLine
