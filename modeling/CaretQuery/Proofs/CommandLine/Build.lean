import CaretQuery.Proofs.CommandLine.Endings
import CaretQuery.Proofs.Expression.Spelling
import Mathlib

/-! # Queries from the command line

A run of the build command without a configuration file and without options for
the whole run reads its clauses, builds the query under the built-in operators
and writes it to standard output as one line, if it can be encoded. Nothing is
logged, and no file changes.
-/
namespace CaretQuery

namespace Log.Journal

variable {j : Journal} {r : Record}

/-- A record below the threshold goes nowhere. -/
theorem log_of_not_le (h : ¬ j.logger.threshold ≤ r.level) : j.log r = j := by
  simp [log, sinksFor, h]

/-- Only warnings and worse are logged, to standard error, and nothing has been so far. -/
structure IsQuiet (j : Journal) : Prop where
  threshold_eq : j.logger.threshold = .warning
  stderr_eq : j.stderr = []

theorem isQuiet_configure (h : j.stderr = []) : (j.configure {}).IsQuiet := ⟨rfl, h⟩

theorem IsQuiet.log_debug (hj : j.IsQuiet) (hr : r.level = .debug) : j.log r = j := by
  apply log_of_not_le
  rw [hj.threshold_eq, hr]
  decide

end Log.Journal

namespace CommandLine

variable {files : Files} {host : Host}

/-! ## Reading the command line -/

/-- The name of a command as the first argument leaves all options of the run at their defaults. -/
theorem readGlobals_build (files : Files) (arguments : List String) :
    readGlobals files ("build" :: arguments) = .ok (.run ({}, "build" :: arguments)) := by
  cbv

theorem read_filter_sort (files : Files) (format : Format) (filter sort : String) :
    CommandForm.build.read files format ["--filter", filter, "--sort", sort] =
      .ok (.run ⟨.build { filter := some filter, sort := some sort }, format⟩) := by
  cbv

/-! ## The command -/

/-- A configuration file that is missing stands for the built-in operators. -/
theorem loadLogged_of_absent {path : Path} {j : Log.Journal}
    (hfile : j.files.isPresent path = .ok false) (hj : j.IsQuiet) :
    loadLogged ⟨path, none⟩ j = (.ok .builtin, j) := by
  have hload : Config.Cache.load ⟨path, none⟩ j.files = .ok (⟨path, false, none⟩,
      [Config.Loaded.record ⟨path, false, none⟩]) := by
    simp [Config.Cache.load, Config.load, hfile, Except.map]
  have hlog : j.log (Config.Loaded.record ⟨path, false, none⟩) = j := hj.log_debug rfl
  simp [loadLogged, hload, Log.Journal.logAll, hlog, Config.Loaded.operators]

theorem buildQuery_of_advanced {input : QueryInput} {text : String}
    (hadvanced : input.isAdvanced = true) (hoptions : input.basicOptions = [])
    (h : advancedQuery input.table input.filter input.sort = .ok text) :
    buildQuery input = .ok ⟨.advanced, text⟩ := by
  simp [buildQuery, hadvanced, hoptions, h]

theorem buildLogged_of_ok {j : Log.Journal} (hj : j.IsQuiet) {input : QueryInput} {query : Query}
    (h : buildQuery input = .ok query) :
    buildLogged j input = (.ok { data := queryData query }, j) := by
  have hlog : j.log (Log.ofQuery query) = j := hj.log_debug rfl
  simp [buildLogged, h, hlog]

theorem readClauses_of_read {option text : String} {items read : List Json}
    (htext : Json.read text = .ok (.array items)) (hread : coerceItems items = .ok read) :
    readClauses option text = .ok (.array read) := by
  simp [readClauses, htext, coerceClauses, hread, Except.map, Except.mapError]

theorem memberText_cons (key text : String) (members : List (String × Json)) :
    memberText ((key, .str text) :: members) key = text := by
  simp [memberText, Json.member?, Json.toValue]

/-- A query goes to standard output as one line. -/
theorem conclude_query (heading : Heading) (query : Query) (hcommand : heading.command = "build")
    (hwarnings : heading.warnings = []) :
    conclude {} heading (.ok { data := queryData query }) =
      ⟨0, .plain (query.text ++ "\n"), [], false⟩ := by
  have hdata : (heading.success { data := queryData query }).dataOutput =
      .ok (.plain (query.text ++ "\n")) := by
    simp [Report.dataOutput, Heading.success, hcommand, queryData, memberText_cons]
  have hshown : (heading.success { data := queryData query }).shown {} =
      .ok ⟨.plain (query.text ++ "\n"), []⟩ := by
    have hok : (heading.success { data := queryData query }).ok = true := rfl
    simp [Report.shown, hok, hdata, Except.map]
  have hnone : (heading.success { data := queryData query }).warnings = [] := by
    simp [Heading.success, hwarnings]
  simp [conclude, hshown, hnone, warningLines]

theorem isEncodable_line {s : String} (h : Text.isEncodable s = true) :
    Text.isEncodable (s ++ "\n") = true := by
  have hend : Text.isEncodable "\n" = true := by decide
  simp [h, hend]

theorem finish_query (heading : Heading) (query : Query) (hcommand : heading.command = "build")
    (hwarnings : heading.warnings = [])
    (hquery : heading.readsJson = true → Text.isEncodable query.text = true) :
    finish {} heading (.ok { data := queryData query }) =
      ⟨0, .plain (query.text ++ "\n"), [], false⟩ := by
  have hconclude := conclude_query heading query hcommand hwarnings
  rw [finish_of_plain (by rw [hconclude]) fun hjson => isEncodable_line (hquery hjson), hconclude]

/-! ## The run -/

/-- There is no configuration file where there are no files. -/
theorem isPresent_nowhere : Files.isPresent {} (configPath {} none) = .ok false := by cbv

/-- Without a configuration file an advanced query is built under the built-in operators. -/
theorem perform_of_absent {a : BuildArguments} {path : Path} {stdin : List UInt8}
    {j : Log.Journal} {input : QueryInput} (hinput : a.queryInput j.files stdin = .ok input)
    (hadvanced : input.isAdvanced = true) (hfile : j.files.isPresent path = .ok false)
    (hj : j.IsQuiet) :
    a.perform ⟨path, none⟩ stdin j = buildLogged j { input with operators := some .builtin } := by
  rw [BuildArguments.perform, hinput]
  simp only [hadvanced, if_true]
  rw [loadLogged_of_absent hfile hj]

theorem logLines_of_isQuiet {j : Log.Journal} (hj : j.IsQuiet) : logLines j = [] := by
  simp [logLines, hj.stderr_eq]

/-- A build that leaves a quiet journal as it was shows its end. -/
theorem Invocation.run_build {g : Globals} {a : BuildArguments} {j : Log.Journal}
    {result : Except Failure Outcome} {finished : Finished} (hj : j.IsQuiet)
    (hperform : a.perform ⟨configPath host.environment g.config, none⟩ host.stdin j = (result, j))
    (hfinish : finish (g.display .table) ⟨"build", (configPath host.environment g.config).text, [],
      host.durationMs, a.readsJson⟩ result = finished) :
    Invocation.run host g j ⟨.build a, .table⟩ =
      (.finished finished.exitCode finished.stdout finished.stderr, j) := by
  have hlog : j.log (failureRecord "build") = j := hj.log_debug rfl
  rw [Invocation.run, Command.perform, hperform]
  simp only [Command.name, Command.readsJson, hfinish, hlog, ite_self, logLines_of_isQuiet hj,
    List.nil_append]

/-- The run of a build that leaves a quiet journal as it was. -/
theorem run_build (host : Host) {arguments : List String} {a : BuildArguments}
    {result : Except Failure Outcome} {finished : Finished}
    (hread : CommandForm.build.read files .table arguments = .ok (.run ⟨.build a, .table⟩))
    (hperform : ∀ j : Log.Journal, j.files = files → j.IsQuiet →
      a.perform ⟨configPath host.environment none, none⟩ host.stdin j = (result, j))
    (hfinish : finish {} ⟨"build", (configPath host.environment none).text, [], host.durationMs,
      a.readsJson⟩ result = finished) :
    run host files ("build" :: arguments) =
      (.finished finished.exitCode finished.stdout finished.stderr, files) := by
  have hquiet : (Log.Journal.configure { clock := host.clock, files } {}).IsQuiet :=
    Log.Journal.isQuiet_configure rfl
  have htopic : Topic.run host {} arguments
      (Log.Journal.configure { clock := host.clock, files } {}) (.command .build) =
        (.finished finished.exitCode finished.stdout finished.stderr,
          Log.Journal.configure { clock := host.clock, files } {}) := by
    have hread' : Topic.read (Log.Journal.configure { clock := host.clock, files } {}).files .table
        arguments (.command .build) = .ok (.run ⟨.build a, .table⟩) := hread
    rw [Topic.run, hread']
    exact Invocation.run_build hquiet (hperform _ rfl hquiet) hfinish
  have hname : findTopic files "build" arguments = .ok (.run (.command .build)) := rfl
  have hsettings : Globals.logSettings {} = {} := rfl
  rw [run, readGlobals_build]
  simp only [hname, hsettings, htopic]
  rfl

/-- A build of the clauses of an expression and of a sort, spelled as JSON. -/
theorem perform_of_spells {xs : List Json} {e : Expr} {keys : List (Direction × String)}
    {filter sort : String} (hspells : Spells xs e) (hfilter : Json.read filter = .ok (.array xs))
    (hsort : Json.read sort = .ok (.array (sortSpelling keys))) :
    ∃ query, advancedQuery .builtin (.list e.clauses) (.list (sortOf keys)) = .ok query ∧
      ∀ (path : Path) (stdin : List UInt8) (j : Log.Journal), j.files.isPresent path = .ok false →
        j.IsQuiet → BuildArguments.perform { filter := some filter, sort := some sort }
          ⟨path, none⟩ stdin j = (.ok { data := queryData ⟨.advanced, query⟩ }, j) := by
  obtain ⟨read, query, hread, hquery, hspelled⟩ := advancedQuery_of_spells hspells keys
  refine ⟨query, hquery, fun path stdin j hfile hj => ?_⟩
  have hclauses : readClauses "--filter" filter = .ok (.array read) :=
    readClauses_of_read hfilter hread
  have hkeys : readClauses "--sort" sort = .ok (.array (sortSpelling keys)) :=
    readClauses_of_read hsort (coerceItems_sortSpelling keys)
  let a : BuildArguments := { filter := some filter, sort := some sort }
  have hinput : a.queryInput j.files stdin =
      .ok {
        filter := (Json.array read).toValue
        sort := (Json.array (sortSpelling keys)).toValue } := by
    simp [BuildArguments.queryInput, BuildArguments.filterClauses, BuildArguments.sortClauses,
      a, hclauses, hkeys, readMatches, BuildArguments.valueOf, matchesValue, bind, Except.bind,
      Except.map]
  have hbuild : buildQuery
      { filter := (Json.array read).toValue,
        sort := (Json.array (sortSpelling keys)).toValue,
        operators := some .builtin } = .ok ⟨.advanced, query⟩ :=
    buildQuery_of_advanced rfl rfl hspelled
  exact (perform_of_absent hinput rfl hfile hj).trans (buildLogged_of_ok hj hbuild)

/-- The query of a value that is a lone surrogate cannot be written. -/
theorem run_build_lone_surrogate :
    ∃ lines, run {} {} ["build", "--filter", "[[\"a\",\"-eq\",\"\\ud800\"]]", "--sort", "[]"] =
      (.finished 1 (.plain "") lines, {}) := by
  let lone := String.ofList [Text.loneSurrogate 0xD800]
  let filter := "[[\"a\",\"-eq\",\"\\ud800\"]]"
  have hread : Json.read filter = .ok (.array [.array [.str "a", .str "-eq", .str lone]]) := by cbv
  have hsort : Json.read "[]" = .ok (.array (sortSpelling [])) := by cbv
  obtain ⟨query, hquery, hperform⟩ := perform_of_spells (.formatted "a" .eq lone) hread hsort
  have hvalue : advancedQuery .builtin (.list (Expr.compare (.str "a") .eq lone).clauses)
      (.list (sortOf [])) = .ok ("a=" ++ lone ++ "^") := by cbv
  obtain rfl : "a=" ++ lone ++ "^" = query := Except.ok.inj (hvalue.symm.trans hquery)
  have hfault : Text.Utf8.encodeFault? ("a=" ++ lone ++ "^" ++ "\n") =
      some ⟨2, [Text.loneSurrogate 0xD800]⟩ := by decide
  let heading : Heading := ⟨"build", (configPath {} none).text, [], 0, true⟩
  have hfailure (failure : Failure) : ∃ lines, conclude {} heading (.error failure) =
      ⟨failure.exitCode, .plain "", lines, true⟩ := ⟨_, rfl⟩
  obtain ⟨lines, hlines⟩ := hfailure (.unexpected "UnicodeEncodeError"
    (Text.Utf8.EncodeFault.message ⟨2, [Text.loneSurrogate 0xD800]⟩))
  have hfinish : finish {} heading (.ok { data := queryData ⟨.advanced, "a=" ++ lone ++ "^"⟩ }) =
      ⟨1, .plain "", lines, true⟩ := by
    rw [finish, conclude_query heading _ rfl rfl]
    simp only [Heading.writeFault?, heading, if_true, hfault, Bool.false_eq_true, if_false]
    exact hlines
  have hquiet (j : Log.Journal) (hfiles : j.files = {}) (hj : j.IsQuiet) :=
    hperform (configPath {} none) [] j (by rw [hfiles]; exact isPresent_nowhere) hj
  exact ⟨lines, run_build {} (read_filter_sort {} .table filter "[]") hquiet hfinish⟩

end CommandLine

end CaretQuery
