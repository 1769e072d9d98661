import CaretQuery.Proofs.CommandLine.Formats
import CaretQuery.Proofs.Expression.Flattening
import CaretQuery.Proofs.Log.Differing

/-! # Builds that never look at the configuration

The configuration is loaded only when the input of a build has been read and
calls for an advanced query. A build without filter and sort, or one that finds
a fault in its own input, ends the same way whatever is in the place of the
configuration, as long as the log file is reached by another way.
-/
namespace CaretQuery.CommandLine

variable {a : BuildArguments} {files f g : Files} {stdin : List UInt8} {option text : String}
variable {host : Host} {arguments rest : List String} {globals : Globals} {place : List String}
variable {j k : Log.Journal}

/-! ## Faults of the input -/

/-- Null or an object, or an array with one of these somewhere in it. -/
inductive HoldsNoText : Json → Prop
  | null : HoldsNoText .null
  | object (members : List (String × Json)) : HoldsNoText (.object members)
  | array {item : Json} {items : List Json} (hitem : item ∈ items) (h : HoldsNoText item) :
      HoldsNoText (.array items)

/-- A text that gives no clauses: it is not JSON, or an integer in it has more digits than are
converted, or there is null or an object in it. -/
def IsNoClauses (text : String) : Prop :=
  (∃ fault, Json.read text = .error fault) ∨ ∃ json, Json.read text = .ok json ∧ HoldsNoText json

/-- A match without an equals sign, or with nothing but blanks before the first one. -/
def IsNoMatch (raw : String) : Prop :=
  '=' ∉ raw.toList ∨
    ∃ before value, raw.toList = before ++ '=' :: value ∧ '=' ∉ before ∧ Text.trim before = []

theorem coerceItems_ne_ok {item : Json} {items : List Json} (hitem : item ∈ items)
    (h : ∀ read, coerceClauses item ≠ .ok read) (read : List Json) :
    coerceItems items ≠ .ok read := by
  induction items generalizing read with
  | nil => cases hitem
  | cons first items ih =>
    intro hread
    obtain ⟨text, texts, hfirst, hrest, -⟩ := coerceItems_cons_eq_ok.1 hread
    rcases List.mem_cons.1 hitem with rfl | hitem
    · exact h text hfirst
    · exact ih hitem texts hrest

theorem HoldsNoText.coerceClauses_ne_ok {json : Json} (h : HoldsNoText json) (read : Json) :
    coerceClauses json ≠ .ok read := by
  induction h generalizing read with
  | null => nofun
  | object members => nofun
  | array hitem h ih =>
    intro hread
    obtain ⟨texts, htexts, -⟩ := coerceClauses_array_eq_ok.1 hread
    exact coerceItems_ne_ok hitem ih texts htexts

theorem readClauses_ne_ok (htext : IsNoClauses text) (clauses : Json) :
    readClauses option text ≠ .ok clauses := by
  rcases htext with ⟨fault, hread⟩ | ⟨json, hread, hnotext⟩
  · simp [readClauses, hread]
  · cases hcoerce : coerceClauses json with
    | error fault => simp [readClauses, hread, hcoerce, Except.mapError]
    | ok read => exact absurd hcoerce (hnotext.coerceClauses_ne_ok read)

/-- The part of a text before its first equals sign. -/
theorem takeWhile_ne_equals {before : List Char} (hbefore : '=' ∉ before) (value : List Char) :
    (before ++ '=' :: value).takeWhile (fun c => c != '=') = before := by
  rw [List.takeWhile_append_of_pos fun c hc => bne_iff_ne.2 (ne_of_mem_of_not_mem hc hbefore)]
  simp

theorem splitMatch_of_toList {raw : String} {before value : List Char}
    (hraw : raw.toList = before ++ '=' :: value) (hbefore : '=' ∉ before) :
    splitMatch raw = if (Text.trim before).isEmpty then none
      else some (String.ofList (Text.trim before), String.ofList value) := by
  rw [splitMatch, hraw, takeWhile_ne_equals hbefore]
  simp only [List.drop_left]

theorem splitMatch_eq_none {raw : String} (h : IsNoMatch raw) : splitMatch raw = none := by
  rcases h with hnone | ⟨before, value, hraw, hbefore, hblank⟩
  · have hall : raw.toList.takeWhile (fun c => c != '=') = raw.toList :=
      List.takeWhile_eq_self_iff.2 fun c hc => bne_iff_ne.2 (ne_of_mem_of_not_mem hc hnone)
    rw [splitMatch, hall]
    simp
  · rw [splitMatch_of_toList hraw hbefore, hblank]
    rfl

theorem readMatches_ne_ok {raw : String} {raws : List String} (hraw : raw ∈ raws)
    (hnomatch : IsNoMatch raw) (pairs : Option (List (String × String))) :
    readMatches option raws ≠ .ok pairs := by
  have hpairs (pairs : List (String × String)) : raws.mapM (readMatch option) ≠ .ok pairs := by
    intro hpairs
    induction raws generalizing pairs with
    | nil => cases hraw
    | cons first raws ih =>
      simp only [List.mapM_cons, bind_eq_ok] at hpairs
      obtain ⟨pair, hfirst, others, hothers, -⟩ := hpairs
      rcases List.mem_cons.1 hraw with rfl | hraw
      · simp [readMatch, splitMatch_eq_none hnomatch] at hfirst
      · exact ih hraw others hothers
  rw [readMatches, List.isEmpty_eq_false_iff.2 (List.ne_nil_of_mem hraw)]
  cases hall : raws.mapM (readMatch option) with
  | error failure => simp [Except.map]
  | ok others => exact absurd hall (hpairs others)

namespace BuildArguments

/-- The filter file, where it is looked at, can be read. -/
def ReadsFilter (a : BuildArguments) (files : Files) (stdin : List UInt8) : Prop :=
  a.filter = none → ∀ file ∈ a.filterFile, ∃ text, readFilterFile files stdin file = .ok text

/-- Faults that a build finds in its own input: two filters, options that give no clauses, a
filter without a sort, and matches without an equals sign or a field. -/
inductive IsFaulty (a : BuildArguments) (files : Files) (stdin : List UInt8) : Prop
  | bothFilters (hfilter : a.filter.isSome) (hfile : a.filterFile.isSome)
  | filter {text : String} (hfilter : a.filter = some text) (htext : IsNoClauses text)
  | filterFile {file text : String} (hfilter : a.filter = none) (hfile : a.filterFile = some file)
      (hread : readFilterFile files stdin file = .ok text) (htext : IsNoClauses text)
  | sort {text : String} (hsort : a.sort = some text) (htext : IsNoClauses text)
  | missingSort (hfilter : a.filter.isSome ∨ a.filterFile.isSome) (hsort : a.sort = none)
  | exact {raw : String} (hraw : raw ∈ a.exact) (hnomatch : IsNoMatch raw)
  | contains {raw : String} (hraw : raw ∈ a.contains) (hnomatch : IsNoMatch raw)

/-- A build without filter and sort, or one that finds a fault in its own input. -/
inductive EndsEarly (a : BuildArguments) (files : Files) (stdin : List UInt8) : Prop
  | basic (hfilter : a.filter = none) (hfile : a.filterFile = none) (hsort : a.sort = none)
  | faulty (hreads : a.ReadsFilter files stdin) (hfaulty : a.IsFaulty files stdin)

theorem queryInput_eq_ok {input : QueryInput} (hinput : a.queryInput files stdin = .ok input) :
    ∃ filter sort exact contains, a.filterClauses files stdin = .ok filter ∧
      a.sortClauses filter.isSome = .ok sort ∧ readMatches "--match-exact" a.exact = .ok exact ∧
      readMatches "--match-contains" a.contains = .ok contains ∧
      input.filter = valueOf Json.toValue filter ∧ input.sort = valueOf Json.toValue sort := by
  simp only [queryInput, bind_eq_ok, Except.ok.injEq] at hinput
  obtain ⟨filter, hfilter, sort, hsort, exact, hexact, contains, hcontains, rfl⟩ := hinput
  exact ⟨filter, sort, exact, contains, hfilter, hsort, hexact, hcontains, rfl, rfl⟩

/-- A filter that is given leaves clauses, unless it is refused. -/
theorem isSome_of_filterClauses {filter : Option Json}
    (hfilter : a.filterClauses files stdin = .ok filter)
    (hgiven : a.filter.isSome ∨ a.filterFile.isSome) : filter.isSome := by
  have hmap {x : Except Failure Json} (h : x.map some = .ok filter) : filter.isSome := by
    cases x with
    | error failure => cases h
    | ok clauses => rw [← Except.ok.inj h]; rfl
  rw [filterClauses] at hfilter
  split at hfilter
  · cases hfilter
  · exact hmap hfilter
  · split at hfilter
    · cases hfilter
    · exact hmap hfilter
  next hnone hnofile => simp [hnone, hnofile] at hgiven

/-- A build that finds a fault in its own input has no input for a query. -/
theorem IsFaulty.queryInput_ne_ok (h : a.IsFaulty files stdin) (input : QueryInput) :
    a.queryInput files stdin ≠ .ok input := by
  intro hinput
  obtain ⟨filter, sort, exact, contains, hfilter, hsort, hexact, hcontains, -, -⟩ :=
    queryInput_eq_ok hinput
  have hclauses {option text : String} {clauses : Option Json} (htext : IsNoClauses text)
      (hread : (readClauses option text).map some = .ok clauses) : False := by
    cases hx : readClauses option text with
    | error failure => simp [hx, Except.map] at hread
    | ok json => exact readClauses_ne_ok htext json hx
  cases h with
  | bothFilters hgiven hfile =>
    obtain ⟨text, htext⟩ := Option.isSome_iff_exists.1 hgiven
    obtain ⟨file, hfile⟩ := Option.isSome_iff_exists.1 hfile
    simp [filterClauses, htext, hfile] at hfilter
  | filter hgiven htext =>
    cases hfile : a.filterFile with
    | some file => simp [filterClauses, hgiven, hfile] at hfilter
    | none =>
      rw [filterClauses, hgiven, hfile] at hfilter
      exact hclauses htext hfilter
  | filterFile hgiven hfile hread htext =>
    rw [filterClauses, hgiven, hfile] at hfilter
    simp only [hread] at hfilter
    exact hclauses htext hfilter
  | sort hgiven htext =>
    rw [sortClauses, hgiven] at hsort
    exact hclauses htext hsort
  | missingSort hgiven hnone =>
    simp [sortClauses, hnone, isSome_of_filterClauses hfilter hgiven] at hsort
  | exact hraw hnomatch => exact readMatches_ne_ok hraw hnomatch exact hexact
  | contains hraw hnomatch => exact readMatches_ne_ok hraw hnomatch contains hcontains

/-- Where a build that ends early has input for a query, it is that of a basic one. -/
theorem EndsEarly.isAdvanced_eq_false (hearly : a.EndsEarly files stdin) {input : QueryInput}
    (hinput : a.queryInput files stdin = .ok input) : input.isAdvanced = false := by
  cases hearly with
  | faulty hreads hfaulty => exact absurd hinput (hfaulty.queryInput_ne_ok input)
  | basic hfilter hfile hsort =>
    obtain ⟨filter, sort, -, -, hfilterClauses, hsortClauses, -, -, hf, hs⟩ :=
      queryInput_eq_ok hinput
    simp only [filterClauses, hfilter, hfile, Except.ok.injEq] at hfilterClauses
    subst hfilterClauses
    simp only [sortClauses, hsort, Option.isSome_none, Bool.false_eq_true, if_false,
      Except.ok.injEq] at hsortClauses
    subst hsortClauses
    simp [QueryInput.isAdvanced, hf, hs, valueOf, Value.isNone]

/-! ## Both file trees -/

/-- The input of a query is the same for both, when the filter file is another one. -/
theorem queryInput_eq (h : f.DiffersAt place g) (hreads : a.ReadsFilter f stdin)
    (hfile : ∀ file ∈ a.filterFile, file ≠ "-" → f.placeOf (.ofText file) ≠ place) :
    a.queryInput f stdin = a.queryInput g stdin := by
  have hfilter : a.filterClauses f stdin = a.filterClauses g stdin := by
    rw [filterClauses, filterClauses]
    cases hgivenFile : a.filterFile with
    | none => cases a.filter <;> rfl
    | some file =>
      cases hgiven : a.filter with
      | some text => rfl
      | none =>
        have hsame : readFilterFile f stdin file = readFilterFile g stdin file := by
          by_cases hdash : file = "-"
          · simp [readFilterFile, filterContent, hdash]
          · obtain ⟨text, htext⟩ := hreads hgiven file hgivenFile
            cases hread : f.read (.ofText file) with
            | error fault => simp [readFilterFile, filterContent, hdash, hread] at htext
            | ok content =>
              have hplace := h.notMem_trailOf_of_read hread (hfile file hgivenFile hdash)
              simp only [readFilterFile, filterContent, ← h.read_eq hplace]
        simp only [hsame]
  rw [queryInput, queryInput, hfilter]

/-- What a build that ends early does: it fails, or builds a basic query, whatever there is in the
place of the configuration. -/
theorem EndsEarly.perform_differs (hearly : a.EndsEarly j.files stdin) (h : j.DiffersAt place k)
    (hfile : ∀ file ∈ a.filterFile, file ≠ "-" → j.files.placeOf (.ofText file) ≠ place)
    (cache : Config.Cache) :
    (a.perform cache stdin j).1 = (a.perform cache stdin k).1 ∧
      (a.perform cache stdin j).2.DiffersAt place (a.perform cache stdin k).2 := by
  have hreads : a.ReadsFilter j.files stdin := by
    cases hearly with
    | basic hfilter hfile hsort => simp [ReadsFilter, hfile]
    | faulty hreads hfaulty => exact hreads
  rw [perform, perform, ← queryInput_eq h.files hreads hfile]
  cases hinput : a.queryInput j.files stdin with
  | error failure => exact ⟨rfl, h⟩
  | ok input =>
    have hbasic := hearly.isAdvanced_eq_false hinput
    simp only [hbasic, Bool.false_eq_true, if_false]
    rw [buildLogged, buildLogged]
    cases buildQuery input with
    | error e => exact ⟨rfl, h⟩
    | ok query => exact ⟨rfl, h.log _⟩

end BuildArguments

/-! ## The run -/

/-- A basic query of a build that reads no JSON is shown by itself, behind what has been logged. -/
theorem run_of_basic {input : QueryInput} {query : Query}
    (hreach : Reaches host files arguments globals ⟨.build a, .table⟩)
    (hreads : a.readsJson = false) (hdisplay : globals.display .table = {})
    (hinput : a.queryInput (host.journal files globals).files host.stdin = .ok input)
    (hbasic : input.isAdvanced = false) (hquery : buildQuery input = .ok query) :
    (run host files arguments).1 = .finished 0 (.plain (query.text ++ "\n"))
      (logLines ((host.journal files globals).log (Log.ofQuery query))) := by
  have hperform : (Command.build a).perform host (configPath host.environment globals.config)
      (host.journal files globals) = (.ok { data := queryData query },
        (host.journal files globals).log (Log.ofQuery query)) := by
    rw [Command.perform, BuildArguments.perform, hinput]
    simp only [hbasic, Bool.false_eq_true, if_false, buildLogged, hquery]
  have hfinish : finish (globals.display .table) (host.heading globals (.build a))
      (.ok { data := queryData query }) = ⟨0, .plain (query.text ++ "\n"), [], false⟩ := by
    rw [hdisplay]
    exact finish_query _ query rfl rfl fun hjson => absurd (hreads.symm.trans hjson) (by decide)
  rw [run_of_finish hreach hperform hfinish]
  simp only [journalAfter, Bool.false_eq_true, if_false, List.append_nil]

/-- The path of the log file, if there is one, does not lead to a place or through it. -/
def LogsElsewhere (files : Files) (g : Globals) (place : List String) : Prop :=
  ∀ path ∈ g.logSettings.target, place ∉ files.trailOf path

/-- Once logging has been configured the journals of two runs differ as their files do. -/
theorem differsAt_journal (host : Host) (h : f.DiffersAt place g)
    (hlog : LogsElsewhere f globals place) :
    (host.journal f globals).DiffersAt place (host.journal g globals) := by
  have hstart : Log.Journal.DiffersAt place { clock := host.clock, files := f }
      { clock := host.clock, files := g } := ⟨rfl, h, by simp⟩
  refine hstart.configure fun path hpath => ⟨?_, hlog path hpath⟩
  have hfile : ∃ text, path = .ofText text := by
    rw [Option.mem_def, Log.Settings.target, Globals.logSettings] at hpath
    split at hpath
    · obtain ⟨text, -, hpath⟩ := Option.map_eq_some_iff.1 hpath
      exact ⟨text, hpath.symm⟩
    · cases hpath
  obtain ⟨text, rfl⟩ := hfile
  exact fun name hname => Files.isPathName_ofText hname

theorem invocation_run_differs (globals : Globals) (format : Format) (h : j.DiffersAt place k)
    (hearly : a.EndsEarly j.files host.stdin)
    (hfile : ∀ file ∈ a.filterFile, file ≠ "-" → j.files.placeOf (.ofText file) ≠ place) :
    (Invocation.run host globals j ⟨.build a, format⟩).1 =
        (Invocation.run host globals k ⟨.build a, format⟩).1 ∧
      (Invocation.run host globals j ⟨.build a, format⟩).2.DiffersAt place
        (Invocation.run host globals k ⟨.build a, format⟩).2 := by
  obtain ⟨result, j', hj⟩ : ∃ result j', (Command.build a).perform host
      (configPath host.environment globals.config) j = (result, j') := ⟨_, _, rfl⟩
  obtain ⟨other, k', hk⟩ : ∃ other k', (Command.build a).perform host
      (configPath host.environment globals.config) k = (other, k') := ⟨_, _, rfl⟩
  obtain ⟨rfl, hjournal⟩ : result = other ∧ j'.DiffersAt place k' := by
    have hperform := hearly.perform_differs h hfile
      ⟨configPath host.environment globals.config, none⟩
    rw [Command.perform] at hj hk
    rwa [hj, hk] at hperform
  have hlogged (failed : Bool) (r : Log.Record) : Log.Journal.DiffersAt place
      (if failed then j'.log r else j') (if failed then k'.log r else k') := by
    split
    · exact hjournal.log r
    · exact hjournal
  rw [Invocation.run, Invocation.run]
  dsimp only
  rw [hj, hk]
  dsimp only
  refine ⟨?_, hlogged _ _⟩
  rw [logLines, logLines, (hlogged _ _).stderr_eq]

/-- A build without filter and sort, or one that finds a fault in its own input, never looks at the
configuration. On files that differ only in the file at the path of the configuration it ends the
same way, with the same output, and the files still differ only there. The filter file has to be
another one, and the path of the log file may not lead through that place. -/
theorem run_build_ignores_config
    (hread : readGlobals f arguments = .ok (.run (globals, "build" :: rest)))
    (h : f.DiffersAt (f.placeOf (configPath host.environment globals.config)) g)
    (hlog : LogsElsewhere f globals (f.placeOf (configPath host.environment globals.config)))
    (hearly : ∀ a format,
      CommandForm.build.read (host.journal f globals).files globals.format rest =
        .ok (.run ⟨.build a, format⟩) →
      a.EndsEarly (host.journal f globals).files host.stdin ∧
        ∀ file ∈ a.filterFile, file ≠ "-" →
          f.placeOf (.ofText file) ≠ f.placeOf (configPath host.environment globals.config)) :
    (run host f arguments).1 = (run host g arguments).1 ∧
      (run host f arguments).2.DiffersAt (f.placeOf (configPath host.environment globals.config))
        (run host g arguments).2 := by
  have hglobals : readGlobals g arguments = .ok (.run (globals, "build" :: rest)) := by
    rw [← hread]
    exact readGlobals_congr fun _ _ _ _ value _ => (h.namesDirectory_eq value).symm
  have hjournal := differsAt_journal host h hlog
  have hrun (files : Files)
      (hread : readGlobals files arguments = .ok (.run (globals, "build" :: rest))) :
      run host files arguments =
        (((Topic.command .build).run host globals rest (host.journal files globals)).1,
          ((Topic.command .build).run host globals rest
            (host.journal files globals)).2.files) := by
    rw [run, hread]
    rfl
  rw [hrun f hread, hrun g hglobals]
  have hsame : (Topic.command .build).read (host.journal g globals).files globals.format rest =
      CommandForm.build.read (host.journal f globals).files globals.format rest :=
    (read_build_congr globals.format hjournal.files.namesDirectory_eq).symm
  have hcurrent : (host.journal f globals).files.current = f.current :=
    (Log.Journal.keeps_configure _ _).current
  rw [Topic.run, Topic.run, hsame, Topic.read]
  cases hbuild : CommandForm.build.read (host.journal f globals).files globals.format rest with
  | error e => exact ⟨rfl, hjournal.files⟩
  | ok wish =>
    have hlines : logLines (host.journal g globals) = logLines (host.journal f globals) := by
      rw [logLines, logLines, hjournal.stderr_eq]
    cases wish with
    | help text => exact ⟨by simp only [hlines], hjournal.files⟩
    | version => exact ⟨by simp only [hlines], hjournal.files⟩
    | run i =>
      obtain ⟨command, format⟩ := i
      obtain ⟨s, rfl⟩ : ∃ s, command = .build (.ofScan s) := command_of_read hbuild
      obtain ⟨hends, hfile⟩ := hearly _ _ hbuild
      have hfile : ∀ file ∈ (BuildArguments.ofScan s).filterFile, file ≠ "-" →
          (host.journal f globals).files.placeOf (.ofText file) ≠
            f.placeOf (configPath host.environment globals.config) := by
        intro file hmem hdash
        rw [Files.placeOf_congr hcurrent]
        exact hfile file hmem hdash
      obtain ⟨hending, hafter⟩ := invocation_run_differs globals format hjournal hends hfile
      exact ⟨hending, hafter.files⟩

/-- A match without an equals sign, once with a broken configuration and once without any. -/
theorem run_build_ignores_config_broken :
    let host : Host := { environment := { configFile := "c.toml" } }
    let f : Files := { root := [("c.toml", .file [0xFF])] }
    let arguments := ["build", "--match-exact", "state", "--sort", "[]"]
    readGlobals f arguments = .ok (.run ({}, arguments)) ∧
      f.DiffersAt (f.placeOf (configPath host.environment none)) {} ∧
      LogsElsewhere f {} (f.placeOf (configPath host.environment none)) ∧
      (∀ a format, CommandForm.build.read f .table arguments.tail = .ok (.run ⟨.build a, format⟩) →
        a.EndsEarly f host.stdin ∧ a.filterFile = none) ∧
      (run host f arguments).1 = (run host {} arguments).1 := by
  intro host f arguments
  have hread : readGlobals f arguments = .ok (.run ({}, arguments)) := by cbv
  have hplace : f.placeOf (configPath host.environment none) = ["c.toml"] := by cbv
  have hdiffers : f.DiffersAt (f.placeOf (configPath host.environment none)) {} := by
    rw [hplace]
    exact (Files.DiffersAt.of_put Files.isPlaced_empty (by decide) [0xFF]).symm
  have hlog : LogsElsewhere f {} (f.placeOf (configPath host.environment none)) := by
    intro path hpath
    cases hpath
  have hbuild : CommandForm.build.read f .table arguments.tail = .ok (.run
      ⟨.build { sort := some "[]", exact := ["state"] }, .table⟩) := by cbv
  have hearly (a : BuildArguments) (format : Format)
      (hread : CommandForm.build.read f .table arguments.tail = .ok (.run ⟨.build a, format⟩)) :
      a.EndsEarly f host.stdin ∧ a.filterFile = none := by
    cases hbuild.symm.trans hread
    exact ⟨.faulty (fun _ _ hfile => by cases hfile)
      (.exact (List.mem_singleton.2 rfl) (.inl (by decide))), rfl⟩
  refine ⟨hread, hdiffers, hlog, hearly, ?_⟩
  refine (run_build_ignores_config hread hdiffers hlog fun a format hread => ?_).1
  obtain ⟨hends, hfile⟩ := hearly a format hread
  exact ⟨hends, by simp [hfile]⟩

/-- A log file below the path of the configuration can be opened only while nothing is there. -/
theorem run_build_sees_config :
    let host : Host := { environment := { configFile := "c" } }
    let f : Files := { root := [("c", .file [])] }
    let a : BuildArguments := { exact := ["state=1"] }
    let g : Globals := { logFile := "c/log" }
    let arguments := ["--log-file", "c/log", "build", "--match-exact", "state=1"]
    f.DiffersAt (f.placeOf (configPath host.environment none)) {} ∧
      f.placeOf (.ofText "c/log") ≠ f.placeOf (configPath host.environment none) ∧
      Reaches host f arguments g ⟨.build a, .table⟩ ∧ a.EndsEarly (host.journal f g).files [] ∧
      (run host f arguments).1 ≠ (run host {} arguments).1 := by
  intro host f a g arguments
  have hplace : f.placeOf (configPath host.environment none) = ["c"] := by cbv
  have hother : f.placeOf (.ofText "c/log") = ["c", "log"] := by cbv
  have hdiffers : f.DiffersAt ["c"] {} :=
    (Files.DiffersAt.of_put Files.isPlaced_empty (by decide) []).symm
  have hscan : Scan.scan globalSpecs false arguments =
      .ok ⟨[⟨"--log-file", "c/log"⟩], arguments.drop 2⟩ := by cbv
  have hbuild (files : Files) : CommandForm.build.read files .table
      ["--match-exact", "state=1"] = .ok (.run ⟨.build a, .table⟩) := by cbv
  have hreach (files : Files) (hdirectory : files.namesDirectory "c/log" = false) :
      Reaches host files arguments g ⟨.build a, .table⟩ := by
    have hglobals := @readGlobals_of_scan files arguments _ hscan (by cbv) (by cbv)
      (by simp [hdirectory])
    exact ⟨"build", ["--match-exact", "state=1"], .command .build, hglobals.trans (by cbv), rfl,
      hbuild _⟩
  have hf : Reaches host f arguments g ⟨.build a, .table⟩ := hreach f (by cbv)
  have hg : Reaches host {} arguments g ⟨.build a, .table⟩ := hreach {} (by cbv)
  let query : Query := ⟨.basic, "ORDERBYDESCopened_at^state=1"⟩
  have hquery : buildQuery { exact := .list [.tuple [.str "state", .str "1"]] } = .ok query := by
    cbv
  have hrun (files : Files) (hreach : Reaches host files arguments g ⟨.build a, .table⟩) :=
    run_of_basic hreach rfl rfl rfl rfl hquery
  let warning := "Warning: cannot open log file c/log: [Errno 17] File exists: 'c'"
  have hjournal : host.journal f g = Log.Journal.install
      { clock := "", files := f, stderr := [warning] } .warning [(.warning, .stderr)] := by
    have htarget : g.logSettings.target = some ⟨"", ["c", "log"]⟩ := by cbv
    have hread : f.read ⟨"", ["c"]⟩ = .ok [] := by cbv
    have hopen : Log.Journal.openFile f ⟨"", ["c", "log"]⟩ =
        .error ⟨.alreadyExists, Path.text ⟨"", ["c"]⟩⟩ := by
      rw [Log.Journal.openFile, Path.parent]
      simp only [List.dropLast, Files.ensureDirectories_of_read hread]
    have hwarning : "Warning: cannot open log file " ++ Path.text ⟨"", ["c", "log"]⟩ ++ ": " ++
        FileFault.message ⟨.alreadyExists, Path.text ⟨"", ["c"]⟩⟩ = warning := by cbv
    rw [Host.journal, Log.Journal.configure, htarget]
    dsimp only
    rw [hopen]
    dsimp only
    rw [hwarning]
    rfl
  have hwarned : logLines ((host.journal f g).log (Log.ofQuery query)) = [.text warning] := by
    rw [hjournal]
    cbv
  have hsilent : logLines ((host.journal {} g).log (Log.ofQuery query)) = [] := by cbv
  refine ⟨hplace ▸ hdiffers, by rw [hplace, hother]; decide, hf, .basic rfl rfl rfl, ?_⟩
  rw [hrun f hf, hrun {} hg, hwarned, hsilent]
  simp

end CaretQuery.CommandLine
