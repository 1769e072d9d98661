import CaretQuery.Proofs.Clause.Texts
import CaretQuery.Proofs.CommandLine.FirstFault

/-! # Which clause of a build is blamed

A build whose filter or sort does not compile blames the first clause at fault,
by its position in the list of clauses and by its texts. For people the clause
stands on one line of JSON, with its position before it.
-/
namespace CaretQuery

/-! ## Lines on a screen -/

namespace Text

theorem splitAt_of_notMem {c : Char} {cs : List Char} (h : c ∉ cs) : splitAt c cs = [cs] := by
  induction cs with
  | nil => rfl
  | cons d cs ih =>
    rw [List.mem_cons, not_or] at h
    rw [splitAt, if_neg (Ne.symm h.1), ih h.2]

theorem expandTabs_of_notMem {cs : List Char} (h : '\t' ∉ cs) : expandTabs cs = cs := by
  rw [expandTabs, splitAt_of_notMem h, joinAtTabs]

/-- Only blanks at the end are cut off. -/
theorem trimRight_concat {cs : List Char} {c : Char} (h : isBlank c = false) :
    trimRight (cs ++ [c]) = cs ++ [c] := by
  simp [trimRight, h]

theorem trimRight_cons {cs : List Char} {c : Char} (h : isBlank c = false) :
    trimRight (c :: cs) = c :: trimRight cs := by
  rw [trimRight, List.reverse_cons, List.dropWhile_append]
  split
  next hempty => simp [trimRight, h, List.isEmpty_iff.1 hempty]
  next => simp [trimRight]

end Text

namespace CommandLine

open Json (IsLine)
open BuildArguments (valueOf)

/-- A text without control characters is one line on a screen, but for blanks at its end. -/
theorem ofText_of_isLine {text : String} (h : IsLine text.toList) :
    Screen.ofText text = [.text (String.ofList (Text.trimRight text.toList))] := by
  have hnotMem {c : Char} (hc : c.toNat < 32) : c ∉ text.toList := by
    intro hmem
    have hle := h c hmem
    omega
  have hvisible : Screen.visible text = text.toList := by
    rw [Screen.visible, List.filter_eq_self]
    intro c hc
    have hle := h c hc
    simp only [Screen.isControl, Bool.not_eq_true', List.contains_eq_mem, decide_eq_false_iff_not,
      List.mem_cons, List.not_mem_nil, or_false, not_or]
    omega
  rw [Screen.ofText, Screen.visibleLines, hvisible, Text.splitAt_of_notMem (hnotMem (by decide)),
    List.map_singleton, Text.expandTabs_of_notMem (hnotMem (by decide)), List.map_singleton]

/-! ## Details of a clause -/

/-- How details show a clause: a text as it is, and a sequence by the texts of its items. -/
inductive ShowsClause : Value → Json → Prop
  | text (s : String) : ShowsClause (.str s) (.str s)
  | list (items : List Value) :
      ShowsClause (.list items) (.array (items.map fun item => .str item.text))
  | tuple (items : List Value) :
      ShowsClause (.tuple items) (.array (items.map fun item => .str item.text))

variable {clause : Value} {shown : Json}

theorem exists_showsClause (h : HoldsTexts clause) :
    ∃ shown, ShowsClause clause shown ∧ Failure.clauseDetail clause = [("clause", shown)] := by
  cases h with
  | str s => exact ⟨_, .text s, rfl⟩
  | list hitems => exact ⟨_, .list _, rfl⟩
  | tuple hitems => exact ⟨_, .tuple _, rfl⟩

theorem ShowsClause.isPlain {bound : Nat} (h : ShowsClause clause shown) : shown.IsPlain bound := by
  cases h with
  | text s => trivial
  | list items => exact arePlain_map (fun item : Value => isPlain_str item.text) items
  | tuple items => exact arePlain_map (fun item : Value => isPlain_str item.text) items

theorem ShowsClause.exists_write_eq_concat (h : ShowsClause clause shown) :
    ∃ cs c, shown.write.toList = cs ++ [c] ∧ Text.isBlank c = false := by
  have harray (items : List Json) :
      ∃ cs c, (Json.array items).write.toList = cs ++ [c] ∧ Text.isBlank c = false :=
    ⟨_, ']', by rw [Json.toList_write_array, ← List.cons_append], by decide⟩
  cases h with
  | text s => exact ⟨_, '"', by rw [Json.write, Json.toList_quoted, ← List.cons_append], by decide⟩
  | list items => exact harray _
  | tuple items => exact harray _

/-- The line that shows a clause with its position. -/
def clauseLine (i : Int) (body : String) : String := "Clause #" ++ toString i ++ ": " ++ body

theorem ShowsClause.ofText_clauseLine (h : ShowsClause clause shown) (i : Int) :
    Screen.ofText (clauseLine i shown.write) = [.text (clauseLine i shown.write)] := by
  have hline : IsLine (clauseLine i shown.write).toList :=
    isLine_concat (isLine_concat (isLine_concat (by simp [IsLine]) (Json.isLine_toString_int i))
      (by simp [IsLine])) (Json.IsPlain.isLine_write shown (h.isPlain : shown.IsPlain 0))
  obtain ⟨cs, c, hwrite, hblank⟩ := h.exists_write_eq_concat
  have hend : (clauseLine i shown.write).toList =
      ("Clause #" ++ toString i ++ ": ").toList ++ cs ++ [c] := by
    rw [clauseLine, String.toList_append, hwrite, List.append_assoc]
  rw [ofText_of_isLine hline, hend, Text.trimRight_concat hblank, ← hend, String.ofList_toList]

/-! ## The report -/

/-- A line that begins like one that shows a clause. -/
def IsClauseLine (line : Line) : Prop := ∃ rest, line = .text ("Clause #" ++ rest)

theorem not_isClauseLine_title {message : String} (h : IsLine message.toList) :
    ∀ line ∈ Screen.ofText ("Invalid query: " ++ message), ¬IsClauseLine line := by
  have hline : IsLine ("Invalid query: " ++ message).toList :=
    isLine_concat (by simp [IsLine]) h
  rw [ofText_of_isLine hline, List.forall_mem_singleton]
  rintro ⟨rest, hrest⟩
  have hchars := congrArg String.toList (Line.text.inj hrest)
  rw [String.toList_ofList, String.toList_append, String.toList_append] at hchars
  have hfirst : Text.isBlank 'I' = false := by decide
  rw [show "Invalid query: ".toList = 'I' :: "nvalid query: ".toList from rfl, List.cons_append,
    Text.trimRight_cons hfirst] at hchars
  cases hchars

theorem not_isClauseLine_frame (text : String) :
    ∀ line ∈ Screen.frame text, ¬IsClauseLine line := by
  intro line hline
  obtain ⟨cells, -, rfl⟩ := List.mem_map.1 hline
  rintro ⟨rest, hrest⟩
  cases hrest

/-- The lines of a report that is not quiet, for a clause at a position. -/
theorem exists_errorLines {display : Display} (hquiet : display.quiet = false) {e : BuildError}
    (hfault : e.fault ≠ .longInteger) {i : Nat} (hindex : e.index = some i)
    (hmessage : IsLine e.message.toList)
    (hshown : ShowsClause e.clause shown)
    (hdetail : Failure.clauseDetail e.clause = [("clause", shown)]) (command : String) :
    ∃ before after, errorLines display command (Failure.ofBuildError e).info =
        before ++ .text (clauseLine i shown.write) :: after ∧
      ∀ line ∈ before ++ after, ¬IsClauseLine line := by
  let details := [("error", .str e.fault.kind), ("index", .int i), ("clause", shown)]
  have hinfo : (Failure.ofBuildError e).info =
      ⟨"validation_error", e.message, none, some details⟩ := by
    simp [Failure.ofBuildError_of_ne hfault, Failure.info, Failure.queryDetails, hindex, hdetail,
      details]
  have hclause : clauseLines details = [.text (clauseLine i shown.write)] := by
    rw [← hshown.ofText_clauseLine]
    have hnumber : (Json.int i).toValue.text = toString (i : Int) := by
      simp [Json.toValue, Value.text, Value.write]
    rw [clauseLine, ← hnumber]
    rfl
  have htitle : errorTitle "validation_error" = "Invalid query" := by cbv
  have hhint : hintLines command ⟨"validation_error", e.message, none, some details⟩ = [] := rfl
  refine ⟨Screen.ofText ("Invalid query: " ++ e.message), if 1 ≤ display.verbosity then
    Screen.frame ((Json.object details).writeIndented 0) else [], ?_, ?_⟩
  · rw [hinfo, errorLines, hquiet, htitle, hhint, detailLines]
    simp [hclause]
  · intro line hline
    rcases List.mem_append.1 hline with hline | hline
    · exact not_isClauseLine_title hmessage line hline
    · split at hline
      · exact not_isClauseLine_frame _ line hline
      · cases hline

/-! ## The clause at fault -/

/-- The first clause of a filter that is refused under a table. -/
structure FirstRefused (table : OperatorTable) (filter : Value) (n : Nat) (clause : Value)
    (fault : Fault) : Prop where
  found : (normalizeClauses filter)[n]? = some clause
  refused : Refused table (n + 1 == (normalizeClauses filter).length) (clauseItems clause) fault
  least : ∀ j < n, CompilesAt table (normalizeClauses filter) j

/-- The first clause of a sort that is not fit for one. -/
structure FirstUnsortable (sort : Value) (n : Nat) (clause : Value) (fault : Fault) : Prop where
  found : (normalizeClauses sort)[n]? = some clause
  unsortable : Unsortable (clauseItems clause) fault
  least : ∀ j < n, ∀ earlier, (normalizeClauses sort)[j]? = some earlier →
    SortCompiles (clauseItems earlier)

/-- A filter and a sort blame a clause: the first of the filter that is refused, or the first of
the sort that is unfit if the filter compiles. -/
inductive Blames (table : OperatorTable) (filter sort : Value) (e : BuildError) (n : Nat) : Prop
  | filter (herror : compileFilter table filter = .error e)
      (hfirst : FirstRefused table filter n e.clause e.fault)
  | sort {fragments : List String} (hfilter : compileFilter table filter = .ok fragments)
      (herror : compileSort sort = .error e) (hfirst : FirstUnsortable sort n e.clause e.fault)

variable {s : Setup} {failure : Failure} {filter sort : Option Json} {table : OperatorTable}
  {e : BuildError} {n : Nat}

theorem Setup.FilterIs.holdTexts (h : s.FilterIs filter) :
    ClausesHoldTexts (valueOf Json.toValue filter) := by
  cases h with
  | absent _ => exact clausesHoldTexts_none
  | given _ hread => exact clausesHoldTexts_of_readClauses hread

theorem Setup.SortIs.holdTexts (h : s.SortIs sort) :
    ClausesHoldTexts (valueOf Json.toValue sort) := by
  cases h with
  | absent _ _ => exact clausesHoldTexts_none
  | given _ hread => exact clausesHoldTexts_of_readClauses hread

/-- The clause that is blamed holds texts only, and its fault is told on one line. -/
theorem Blames.holdsTexts (hfilter : s.FilterIs filter) (hsort : s.SortIs sort)
    (h : Blames table (valueOf Json.toValue filter) (valueOf Json.toValue sort) e n) :
    HoldsTexts e.clause ∧ e.fault ≠ .longInteger ∧ IsLine e.message.toList := by
  cases h with
  | filter _ hfirst =>
    have htexts := hfilter.holdTexts _ (List.mem_of_getElem? hfirst.found)
    exact ⟨htexts, hfirst.refused.ne_longInteger,
      hfirst.refused.isLine_message (holdsTexts_of_mem_clauseItems htexts)⟩
  | sort _ _ hfirst =>
    have htexts := hsort.holdTexts _ (List.mem_of_getElem? hfirst.found)
    exact ⟨htexts, hfirst.unsortable.ne_longInteger,
      hfirst.unsortable.isLine_message (holdsTexts_of_mem_clauseItems htexts)⟩

namespace Setup

/-- The stages before the first fault are all that come before its stage. -/
theorem before_eq {before after : List Stage} {stage : Stage}
    (hstages : Stage.all = before ++ stage :: after) (hfault : s.Fault stage failure)
    (hclear : s.IsClear before) : before = Stage.all.takeWhile fun other => other != stage := by
  have hne : ∀ other ∈ before, (other != stage) = true := by
    intro other hother
    rw [bne_iff_ne]
    rintro rfl
    exact hclear other hother failure hfault
  rw [hstages, List.takeWhile_append_of_pos hne]
  simp

theorem exists_describes (h : s.IsClear [.bothFilters, .filterFile, .filter, .sort, .missingSort,
    .exact, .contains]) : ∃ input, s.Describes input := by
  have hcovers := covers_queryInput s
  cases hinput : s.arguments.queryInput s.files s.stdin with
  | ok input =>
    rw [hinput] at hcovers
    exact ⟨input, hcovers.1⟩
  | error failure =>
    rw [hinput] at hcovers
    obtain ⟨before, stage, after, hstages, hfault, -⟩ := hcovers
    exact absurd hfault (h stage (by simp [hstages]) failure)

theorem exists_load (hadvanced : s.IsAdvanced) (h : ∀ failure, ¬s.Fault .config failure) :
    ∃ loaded, Config.load s.files s.path = .ok loaded := by
  cases hload : Config.load s.files s.path with
  | ok loaded => exact ⟨loaded, rfl⟩
  | error fault => exact absurd (.config hadvanced hload) (h _)

/-- Only the stages at which clauses are compiled name a position. -/
theorem exists_blames (hfirst : s.FirstFault Stage.all failure)
    {details : List (String × Json)} (hdetails : failure.info.details = some details)
    {index : Json} (hindex : Json.member? details "index" = some index) :
    ∃ filter sort loaded e n, s.FilterIs filter ∧ s.SortIs sort ∧
      Config.load s.files s.path = .ok loaded ∧
      Blames loaded.operators (valueOf Json.toValue filter) (valueOf Json.toValue sort) e n ∧
      e.index = some n ∧ failure = .ofBuildError e := by
  obtain ⟨before, stage, after, hstages, hfault, hclear⟩ := hfirst
  have hbefore := before_eq hstages hfault hclear
  have hnone (h : failure.info.details = none) : False := by cases h.symm.trans hdetails
  cases hfault with
  | bothFilters _ _ => exact (hnone rfl).elim
  | filterFile _ hread => exact (hnone (details_of_readFilterFile hread)).elim
  | filter _ _ hread => exact (hnone (details_of_readClauses hread)).elim
  | sort _ _ hread => exact (hnone (details_of_readClauses hread)).elim
  | missingSort _ _ => exact (hnone rfl).elim
  | exact _ => exact (hnone rfl).elim
  | contains _ => exact (hnone rfl).elim
  | config _ hload => cases ‹Config.LoadFault› <;> exact (hnone rfl).elim
  | conflict _ _ =>
    obtain rfl := Option.some.inj hdetails
    cases hindex
  | @filterClauses _ _ json loaded e htext hread hload hcompile =>
    subst hbefore
    obtain ⟨input, hinput⟩ := exists_describes fun stage hstage => hclear stage (by
      revert stage
      decide)
    obtain ⟨filter, hfilter, -⟩ := hinput.filter
    obtain ⟨sort, hsort, -⟩ := hinput.sort
    obtain ⟨e, herror, hfailure⟩ := (fault_filterClauses_iff hfilter hload).1
      (.filterClauses htext hread hload hcompile)
    obtain ⟨n, clause, fault, hfound, hrefused, hleast, rfl⟩ :=
      hfilter.holdTexts.refused_of_compileFilter herror
    exact ⟨filter, sort, loaded, _, n, hfilter, hsort, hload,
      .filter herror ⟨hfound, hrefused, hleast⟩, rfl, hfailure⟩
  | @sortClauses _ json e hgiven hread hcompile =>
    subst hbefore
    obtain ⟨input, hinput⟩ := exists_describes fun stage hstage => hclear stage (by
      revert stage
      decide)
    obtain ⟨filter, hfilter, -⟩ := hinput.filter
    obtain ⟨sort, hsort, -⟩ := hinput.sort
    obtain ⟨loaded, hload⟩ := exists_load (.inr (by rw [hgiven]; rfl)) (hclear .config (by decide))
    obtain ⟨e, herror, hfailure⟩ := (fault_sortClauses_iff hsort).1
      (.sortClauses hgiven hread hcompile)
    obtain ⟨n, clause, fault, hfound, hunsortable, hleast, rfl⟩ :=
      hsort.holdTexts.unsortable_of_compileSort herror
    cases hcompiles : compileFilter loaded.operators (valueOf Json.toValue filter) with
    | error other =>
      exact absurd ((fault_filterClauses_iff hfilter hload).2 ⟨other, hcompiles, rfl⟩)
        (hclear .filterClauses (by decide) _)
    | ok fragments =>
      exact ⟨filter, sort, loaded, _, n, hfilter, hsort, hload,
        .sort hcompiles herror ⟨hfound, hunsortable, hleast⟩, rfl, hfailure⟩

end Setup

/-! ## The run -/

variable {host : Host} {files : Files} {arguments : List String} {g : Globals}
  {a : BuildArguments} {format : Format}

/-- What a run shows of a failure to people who have not asked for quiet. -/
theorem run_of_showsBuild
    (hshows : ShowsBuild host files arguments g a .table (.error failure)) :
    ∃ j, run host files arguments = (.finished failure.exitCode (.plain "")
      (logLines j ++ errorLines (g.display .table) "build" failure.info), j.files) := by
  obtain ⟨finished, j, rfl, hrun, -⟩ := hshows
  rw [finish_failure_of_table rfl] at hrun
  have hwarnings : warningLines (g.display .table) [] = [] := by
    rw [warningLines]
    split <;> rfl
  refine ⟨j, hrun.trans ?_⟩
  change (Ending.finished failure.exitCode (.plain "") (logLines j ++
    (errorLines (g.display .table) "build" failure.info ++ warningLines (g.display .table) [])),
    j.files) = _
  rw [hwarnings, List.append_nil]

/-- A build that fails with the position of a clause blames the first clause at
fault: of the filter, or of the sort if the filter compiles. The kind of the
error, the position and the clause are those of this fault, and people who have
not asked for quiet are shown the clause on one line of JSON. -/
theorem run_build_blames_first_clause
    (hreach : Reaches host files arguments g ⟨.build a, format⟩) {failure : Failure}
    (hfailure : (a.perform ⟨configPath host.environment g.config, none⟩ host.stdin
      (host.journal files g)).1 = .error failure)
    {details : List (String × Json)} (hdetails : failure.info.details = some details)
    {index : Json} (hindex : Json.member? details "index" = some index) :
    ∃ filter sort loaded e n shown,
      (host.setup files g a).FilterIs filter ∧ (host.setup files g a).SortIs sort ∧
      Config.load (host.journal files g).files (configPath host.environment g.config) =
        .ok loaded ∧
      Blames loaded.operators (valueOf Json.toValue filter) (valueOf Json.toValue sort) e n ∧
      failure.info.kind = "validation_error" ∧ index = .int n ∧
      details = [("error", .str e.fault.kind), ("index", .int n), ("clause", shown)] ∧
      ShowsClause e.clause shown ∧
      ShowsBuild host files arguments g a format (.error failure) ∧
      (format = .table → g.quiet = false → ∃ body before after j,
        run host files arguments = (.finished 2 (.plain "")
          (logLines j ++ (before ++ .text (clauseLine n body) :: after)), j.files) ∧
        Json.read body = .ok shown ∧ ∀ line ∈ before ++ after, ¬IsClauseLine line) := by
  have hresult : (host.setup files g a).result = .error failure := by
    rw [← hfailure, Setup.perform_fst]
    rfl
  have hshows := showsBuild_of_reaches hreach
  rw [hresult] at hshows
  obtain ⟨filter, sort, loaded, e, n, hfilter, hsort, hload, hblames, hposition, rfl⟩ :=
    Setup.exists_blames (Setup.result_eq_error_iff.1 hresult) hdetails hindex
  obtain ⟨htexts, hfault, hmessage⟩ := hblames.holdsTexts hfilter hsort
  obtain ⟨shown, hshown, hdetail⟩ := exists_showsClause htexts
  have hall : details = [("error", .str e.fault.kind), ("index", .int n), ("clause", shown)] := by
    rw [← Option.some.injEq, ← hdetails]
    simp [Failure.ofBuildError_of_ne hfault, Failure.info, Failure.queryDetails, hposition, hdetail]
  have hkind : (Failure.ofBuildError e).info.kind = "validation_error" := by
    rw [Failure.ofBuildError_of_ne hfault]
    rfl
  refine ⟨filter, sort, loaded, e, n, shown, hfilter, hsort, hload, hblames, hkind, ?_, hall,
    hshown, hshows, ?_⟩
  · rw [hall] at hindex
    exact (Option.some.inj hindex).symm
  · rintro rfl hquiet
    obtain ⟨j, hrun⟩ := run_of_showsBuild hshows
    have hshowsAll : (g.display .table).quiet = false := hquiet
    obtain ⟨before, after, hlines, hothers⟩ :=
      exists_errorLines hshowsAll hfault hposition hmessage hshown hdetail "build"
    have hcode : (Failure.ofBuildError e).exitCode = 2 := by
      rw [Failure.ofBuildError_of_ne hfault]
      rfl
    rw [hlines, hcode] at hrun
    exact ⟨shown.write, before, after, j, hrun, Json.read_write hshown.isPlain, hothers⟩

/-- A filter that is given as one clause, with an operator that is none and an array as value. -/
theorem run_build_blames_first_clause_alone :
    let text := "[\"a\",\"-no\",[\"x\"]]"
    let arguments := ["build", "--filter", text, "--sort", "[]"]
    let a : BuildArguments := { filter := some text, sort := some "[]" }
    let clause : Value := .tuple [.str "a", .str "-no", .list [.str "x"]]
    let failure := Failure.ofBuildError ⟨.unknownOperator (.str "-no") (.str "a"), clause, some 0⟩
    Reaches {} {} arguments {} ⟨.build a, .table⟩ ∧
      (a.perform ⟨configPath {} none, none⟩ [] (Host.journal {} {} {})).1 = .error failure ∧
      ∃ body before after j,
        run {} {} arguments = (.finished 2 (.plain "")
          (logLines j ++ (before ++ .text (clauseLine 0 body) :: after)), j.files) ∧
        Json.read body = .ok (.array [.str "a", .str "-no", .str "['x']"]) := by
  intro text arguments a clause failure
  have hreach : Reaches {} {} arguments {} ⟨.build a, .table⟩ :=
    ⟨"build", arguments.tail, .command .build, by cbv, rfl, by cbv⟩
  have hread : Json.read text = .ok (.array [.str "a", .str "-no", .array [.str "x"]]) := by cbv
  have hsort : Json.read "[]" = .ok (.array []) := by cbv
  have hload : Config.load {} (configPath {} none) = .ok ⟨configPath {} none, false, none⟩ := by
    cbv
  let input : QueryInput :=
    { filter := .list [.str "a", .str "-no", .list [.str "x"]], sort := .list [] }
  have hinput : a.queryInput {} [] = .ok input := by
    simp [BuildArguments.queryInput, BuildArguments.filterClauses, BuildArguments.sortClauses, a,
      readClauses, hread, hsort, coerceClauses, coerceItems, readMatches, matchesValue,
      BuildArguments.valueOf, Json.toValue, Json.toValues, bind, Except.bind, Except.map,
      Except.mapError, input]
  have hquery : buildQuery { input with operators := some .builtin } =
      .error (.build ⟨.unknownOperator (.str "-no") (.str "a"), clause, some 0⟩) := by
    rfl
  have hfailure : (a.perform ⟨configPath {} none, none⟩ [] (Host.journal {} {} {})).1 =
      .error failure := by
    have hadvanced : input.isAdvanced = true := rfl
    rw [Setup.perform_fst]
    change Setup.result ⟨a, {}, [], configPath {} none⟩ = _
    simp [Setup.result, hinput, hadvanced, hload, Config.Loaded.operators, Setup.built, hquery,
      bind, Except.bind, Except.map, Except.mapError, Failure.ofQueryError, failure]
  obtain ⟨filter, sort, loaded, e, n, shown, -, -, -, -, -, hindex, hdetails, -, -, hlines⟩ :=
    run_build_blames_first_clause hreach hfailure rfl rfl
  obtain ⟨body, before, after, j, hrun, hbody, -⟩ := hlines rfl rfl
  have hn : n = 0 := by
    have hint : (0 : Int) = n := Json.int.inj hindex
    omega
  have hshown : Json.array [.str "a", .str "-no", .str "['x']"] = shown := by
    have hclause := (List.cons.inj (List.cons.inj (List.cons.inj hdetails).2).2).1
    have hvalue : (Value.list [.str "x"]).text = "['x']" := by cbv
    refine Eq.trans ?_ (congrArg Prod.snd hclause)
    change _ = Json.array ([Value.str "a", .str "-no", .list [.str "x"]].map fun item =>
      .str item.text)
    simp [hvalue]
  subst hn hshown
  exact ⟨hreach, hfailure, body, before, after, j, hrun, hbody⟩

end CommandLine
end CaretQuery
