import CaretQuery.Proofs.CommandLine.Stages
import CaretQuery.Proofs.Query.Modes

/-! # Which fault of a build is reported

Every step of a build covers some of its stages: it fails with the first fault
of these, or none of them has one. Steps that follow each other cover the stages
of both, so a build fails with the first fault of all.
-/
namespace CaretQuery.CommandLine

open BuildArguments (valueOf)

variable {α β : Type} {failure : Failure} {option text : String} {raws : List String}

namespace Setup

variable {s : Setup}

/-! ## Steps that cover stages -/

/-- A step that fails with the first fault of the stages, or else gives something with a
property. -/
def Covers (s : Setup) (stages : List Stage) (p : α → Prop) : Except Failure α → Prop
  | .error failure => s.FirstFault stages failure
  | .ok x => p x ∧ s.IsClear stages

variable {p : α → Prop} {q : β → Prop} {stages later : List Stage}

theorem IsClear.append (h : s.IsClear stages) (hlater : s.IsClear later) :
    s.IsClear (stages ++ later) := by
  intro stage hstage
  rcases List.mem_append.1 hstage with hstage | hstage
  · exact h stage hstage
  · exact hlater stage hstage

theorem FirstFault.append_left (h : s.FirstFault stages failure) :
    s.FirstFault (stages ++ later) failure := by
  obtain ⟨before, stage, after, rfl, hfault, hclear⟩ := h
  exact ⟨before, stage, after ++ later, by simp, hfault, hclear⟩

theorem FirstFault.append_right (hfirst : s.IsClear stages) (h : s.FirstFault later failure) :
    s.FirstFault (stages ++ later) failure := by
  obtain ⟨before, stage, after, rfl, hfault, hclear⟩ := h
  exact ⟨stages ++ before, stage, after, by simp, hfault, hfirst.append hclear⟩

theorem Covers.bind {step : Except Failure α} {next : α → Except Failure β}
    (h : s.Covers stages p step) (hnext : ∀ x, p x → s.Covers later q (next x)) :
    s.Covers (stages ++ later) q (step >>= next) := by
  cases step with
  | error failure => exact FirstFault.append_left h
  | ok x =>
    obtain ⟨hx, hclear⟩ := h
    have hstep := hnext x hx
    change s.Covers (stages ++ later) q (next x)
    cases hy : next x with
    | error failure =>
      rw [hy] at hstep
      exact FirstFault.append_right hclear hstep
    | ok y =>
      rw [hy] at hstep
      exact ⟨hstep.1, hclear.append hstep.2⟩

theorem firstFault_head {stage : Stage} (h : s.Fault stage failure) :
    s.FirstFault (stage :: stages) failure :=
  ⟨[], stage, stages, rfl, h, by simp [IsClear]⟩

/-- A stage that has no fault gives something. -/
theorem covers_of_clear {stage : Stage} {x : α} (hx : p x)
    (hclear : ∀ failure, ¬s.Fault stage failure) : s.Covers [stage] p (.ok x) :=
  ⟨hx, by simpa [IsClear] using hclear⟩

/-- A stage without a fault before others. -/
theorem Covers.cons {stage : Stage} {step : Except Failure α}
    (hclear : ∀ failure, ¬s.Fault stage failure) (h : s.Covers stages p step) :
    s.Covers (stage :: stages) p step := by
  have hstage : s.Covers [stage] (fun _ : Unit => True) (.ok ()) :=
    covers_of_clear trivial hclear
  exact hstage.bind fun _ _ => h

/-! ## The input of a query -/

/-- The clauses of the filter, if there is one. -/
inductive FilterIs (s : Setup) : Option Json → Prop
  | absent (hnone : ¬s.HasFilter) : FilterIs s none
  | given {option text : String} {json : Json} (htext : s.FilterText option text)
      (hread : readClauses option text = .ok json) : FilterIs s (some json)

/-- The clauses of the sort, if there is one. A filter needs some. -/
inductive SortIs (s : Setup) : Option Json → Prop
  | absent (hnone : s.arguments.sort = none) (hfilter : ¬s.HasFilter) : SortIs s none
  | given {text : String} {json : Json} (hsort : s.arguments.sort = some text)
      (hread : readClauses "--sort" text = .ok json) : SortIs s (some json)

variable {filter sort : Option Json} {loaded : Config.Loaded} {input : QueryInput}

theorem exists_fault_filter_iff : (∃ failure, s.Fault .filter failure) ↔
    ∃ option text, s.FilterText option text ∧ IsNoClauses text := by
  constructor
  · rintro ⟨failure, hfault⟩
    cases hfault with
    | filter htext hnone _ => exact ⟨_, _, htext, hnone⟩
  · rintro ⟨option, text, htext, hnone⟩
    obtain ⟨failure, hread⟩ := exists_readClauses_eq_error option hnone
    exact ⟨failure, .filter htext hnone hread⟩

theorem exists_fault_sort_iff : (∃ failure, s.Fault .sort failure) ↔
    ∃ text, s.arguments.sort = some text ∧ IsNoClauses text := by
  constructor
  · rintro ⟨failure, hfault⟩
    cases hfault with
    | sort hsort hnone _ => exact ⟨_, hsort, hnone⟩
  · rintro ⟨text, hsort, hnone⟩
    obtain ⟨failure, hread⟩ := exists_readClauses_eq_error "--sort" hnone
    exact ⟨failure, .sort hsort hnone hread⟩

theorem covers_filterText (htext : s.FilterText option text) :
    s.Covers [.filter] s.FilterIs ((readClauses option text).map some) := by
  cases hread : readClauses option text with
  | error failure =>
    exact firstFault_head (.filter htext (isNoClauses_of_readClauses hread) hread)
  | ok json =>
    refine covers_of_clear (.given htext hread) ?_
    intro failure hfault
    cases hfault with
    | filter htext' _ hread' =>
      obtain ⟨rfl, rfl⟩ := htext.unique htext'
      cases hread.symm.trans hread'

theorem not_fault_bothFilters
    (h : s.arguments.filter = none ∨ s.arguments.filterFile = none) :
    ¬s.Fault .bothFilters failure := by
  intro hfault
  cases hfault with
  | bothFilters hfilter hfile => rcases h with h | h <;> simp [h] at hfilter hfile

theorem not_fault_filterFile (h : s.arguments.filterFile = none) :
    ¬s.Fault .filterFile failure := by
  intro hfault
  cases hfault with
  | filterFile hfile _ => cases h.symm.trans hfile

theorem covers_filterClauses (s : Setup) :
    s.Covers [.bothFilters, .filterFile, .filter] s.FilterIs
      (s.arguments.filterClauses s.files s.stdin) := by
  rw [BuildArguments.filterClauses]
  split
  next text file hfilter hfile =>
    exact firstFault_head (.bothFilters (by rw [hfilter]; rfl) (by rw [hfile]; rfl))
  next text hfilter hfile =>
    refine .cons ?_ (.cons ?_ (covers_filterText (.option hfilter)))
    · exact fun _ => not_fault_bothFilters (.inr hfile)
    · exact fun _ => not_fault_filterFile hfile
  next file hfilter hfile =>
    refine .cons (fun _ => not_fault_bothFilters (.inl hfilter)) ?_
    cases hread : readFilterFile s.files s.stdin file with
    | error failure =>
      exact firstFault_head (.filterFile hfile hread)
    | ok text =>
      refine .cons ?_ (covers_filterText (.file hfilter hfile hread))
      intro failure hfault
      cases hfault with
      | filterFile hfile' hread' =>
        obtain rfl := Option.some.inj (hfile.symm.trans hfile')
        cases hread.symm.trans hread'
  next hfilter hfile =>
    have hnone : ¬s.HasFilter := by simp [HasFilter, hfilter, hfile]
    refine .cons ?_ (.cons ?_ (covers_of_clear (.absent hnone) ?_))
    · exact fun _ => not_fault_bothFilters (.inl hfilter)
    · exact fun _ => not_fault_filterFile hfile
    · intro failure hfault
      cases hfault with
      | filter htext _ _ => exact hnone htext.hasFilter

theorem FilterIs.isSome_iff (h : s.FilterIs filter) : filter.isSome ↔ s.HasFilter := by
  cases h with
  | absent hnone => simp [hnone]
  | given htext _ => simp [htext.hasFilter]

theorem covers_sortClauses (hfilter : s.FilterIs filter) :
    s.Covers [.sort, .missingSort] s.SortIs (s.arguments.sortClauses filter.isSome) := by
  rw [BuildArguments.sortClauses]
  split
  next text hsort =>
    cases hread : readClauses "--sort" text with
    | error failure =>
      exact firstFault_head (.sort hsort (isNoClauses_of_readClauses hread) hread)
    | ok json =>
      refine .cons ?_ (covers_of_clear (.given hsort hread) ?_)
      · intro failure hfault
        cases hfault with
        | sort hsort' _ hread' =>
          obtain rfl := Option.some.inj (hsort.symm.trans hsort')
          cases hread.symm.trans hread'
      · intro failure hfault
        cases hfault with
        | missingSort _ hnone => cases hsort.symm.trans hnone
  next hsort =>
    refine .cons ?_ ?_
    · intro failure hfault
      cases hfault with
      | sort hsort' _ _ => cases hsort.symm.trans hsort'
    split
    next hgiven => exact firstFault_head (.missingSort (hfilter.isSome_iff.1 hgiven) hsort)
    next hnone =>
      have habsent : ¬s.HasFilter := fun hgiven => hnone (hfilter.isSome_iff.2 hgiven)
      refine covers_of_clear (.absent hsort habsent) ?_
      intro failure hfault
      cases hfault with
      | missingSort hgiven _ => exact habsent hgiven

theorem fault_exact_iff : s.Fault .exact failure ↔
    ∃ raw, FirstNoMatch s.arguments.exact raw ∧ failure = noMatchFailure "--match-exact" raw := by
  constructor
  · intro hfault
    cases hfault with
    | exact hraw => exact ⟨_, hraw, rfl⟩
  · rintro ⟨raw, hraw, rfl⟩
    exact .exact hraw

theorem fault_contains_iff : s.Fault .contains failure ↔
    ∃ raw, FirstNoMatch s.arguments.contains raw ∧
      failure = noMatchFailure "--match-contains" raw := by
  constructor
  · intro hfault
    cases hfault with
    | contains hraw => exact ⟨_, hraw, rfl⟩
  · rintro ⟨raw, hraw, rfl⟩
    exact .contains hraw

theorem covers_matches {stage : Stage} (hstage : ∀ failure, s.Fault stage failure ↔
    ∃ raw, FirstNoMatch raws raw ∧ failure = noMatchFailure option raw) :
    s.Covers [stage] (fun pairs => pairs.isNone = raws.isEmpty) (readMatches option raws) := by
  cases hread : readMatches option raws with
  | error failure =>
    exact firstFault_head ((hstage failure).2 (firstNoMatch_of_readMatches hread))
  | ok pairs =>
    refine covers_of_clear (isNone_of_readMatches hread) ?_
    intro failure hfault
    obtain ⟨raw, hraw, -⟩ := (hstage failure).1 hfault
    exact not_firstNoMatch_of_readMatches hread hraw

/-- The input of the query that a setup describes. -/
structure Describes (s : Setup) (input : QueryInput) : Prop where
  filter : ∃ filter, s.FilterIs filter ∧ input.filter = valueOf Json.toValue filter
  sort : ∃ sort, s.SortIs sort ∧ input.sort = valueOf Json.toValue sort
  settings : input.basicOptions = s.basicSettings

theorem isNone_valueOf (f : α → Value) (hf : ∀ a, (f a).isNone = false) (a : Option α) :
    (valueOf f a).isNone = !a.isSome := by
  cases a with
  | none => rfl
  | some a => exact hf a

theorem isNone_matchesValue (pairs : Option (List (String × String))) :
    (matchesValue pairs).isNone = pairs.isNone := by
  cases pairs <;> rfl

theorem covers_queryInput (s : Setup) :
    s.Covers [.bothFilters, .filterFile, .filter, .sort, .missingSort, .exact, .contains]
      s.Describes (s.arguments.queryInput s.files s.stdin) := by
  refine (covers_filterClauses s).bind fun filter hfilter => ?_
  refine (covers_sortClauses hfilter).bind fun sort hsort => ?_
  refine (covers_matches fun _ => fault_exact_iff).bind fun exact hexact => ?_
  have hlast (contains : Option (List (String × String)))
      (hcontains : contains.isNone = s.arguments.contains.isEmpty) : s.Covers [] s.Describes (.ok {
        filter := valueOf Json.toValue filter
        sort := valueOf Json.toValue sort
        orderBy := valueOf Value.str s.arguments.orderBy
        direction := valueOf (fun d => .str d.label) s.arguments.direction
        exact := matchesValue exact
        contains := matchesValue contains }) := by
    refine ⟨⟨⟨filter, hfilter, rfl⟩, ⟨sort, hsort, rfl⟩, ?_⟩, by simp [IsClear]⟩
    have horder := isNone_valueOf Value.str (fun _ => rfl) s.arguments.orderBy
    have hdirection := isNone_valueOf (fun d : Direction => .str d.label) (fun _ => rfl)
      s.arguments.direction
    simp only [QueryInput.basicOptions, basicSettings, List.filter_cons, List.filter_nil, horder,
      hdirection, isNone_matchesValue, hexact, hcontains, Bool.not_not,
      apply_ite (List.map Prod.fst), List.map_cons, List.map_nil]
  exact (covers_matches fun _ => fault_contains_iff).bind hlast

/-! ## The clauses of a query -/

theorem FilterIs.ne_none_iff (h : s.FilterIs filter) :
    valueOf Json.toValue filter ≠ .none ↔ s.HasFilter := by
  cases h with
  | absent hnone => simp [valueOf, hnone]
  | given htext hread =>
    have hgiven := Value.isNone_eq_false_iff.1 (isNone_toValue_of_readClauses hread)
    simp [valueOf, hgiven, htext.hasFilter]

theorem SortIs.ne_none_iff (h : s.SortIs sort) :
    valueOf Json.toValue sort ≠ .none ↔ s.arguments.sort.isSome := by
  cases h with
  | absent hnone _ => simp [valueOf, hnone]
  | given hsort hread =>
    have hgiven := Value.isNone_eq_false_iff.1 (isNone_toValue_of_readClauses hread)
    simp [valueOf, hgiven, hsort]

theorem SortIs.ne_none_of_isAdvanced (h : s.SortIs sort) (hadvanced : s.IsAdvanced) :
    valueOf Json.toValue sort ≠ .none := by
  rw [h.ne_none_iff]
  rcases hadvanced with hfilter | hsort
  · cases h with
    | absent _ hnone => exact absurd hfilter hnone
    | given hsort _ => rw [hsort]; rfl
  · exact hsort

theorem Describes.givesAdvanced_iff (h : s.Describes input) :
    input.GivesAdvanced ↔ s.IsAdvanced := by
  obtain ⟨filter, hfilter, hfilterValue⟩ := h.filter
  obtain ⟨sort, hsort, hsortValue⟩ := h.sort
  rw [QueryInput.GivesAdvanced, hfilterValue, hsortValue, hfilter.ne_none_iff, hsort.ne_none_iff,
    IsAdvanced]

theorem fault_filterClauses_iff (hfilter : s.FilterIs filter)
    (hload : Config.load s.files s.path = .ok loaded) :
    s.Fault .filterClauses failure ↔
      ∃ e, compileFilter loaded.operators (valueOf Json.toValue filter) = .error e ∧
        failure = .ofBuildError e := by
  constructor
  · intro hfault
    cases hfault with
    | @filterClauses _ _ _ other e htext hread hload' hcompile =>
      obtain rfl : loaded = other := Except.ok.inj (hload.symm.trans hload')
      cases hfilter with
      | absent hnone => exact absurd htext.hasFilter hnone
      | given htext' hread' =>
        obtain ⟨rfl, rfl⟩ := htext.unique htext'
        obtain rfl := Except.ok.inj (hread.symm.trans hread')
        exact ⟨e, hcompile, rfl⟩
  · rintro ⟨e, hcompile, rfl⟩
    cases hfilter with
    | absent _ => cases hcompile
    | given htext hread => exact .filterClauses htext hread hload hcompile

theorem fault_sortClauses_iff (hsort : s.SortIs sort) :
    s.Fault .sortClauses failure ↔
      ∃ e, compileSort (valueOf Json.toValue sort) = .error e ∧ failure = .ofBuildError e := by
  constructor
  · intro hfault
    cases hfault with
    | @sortClauses _ _ e hgiven hread hcompile =>
      cases hsort with
      | absent hnone _ => cases hgiven.symm.trans hnone
      | given hgiven' hread' =>
        obtain rfl := Option.some.inj (hgiven.symm.trans hgiven')
        obtain rfl := Except.ok.inj (hread.symm.trans hread')
        exact ⟨e, hcompile, rfl⟩
  · rintro ⟨e, hcompile, rfl⟩
    cases hsort with
    | absent _ _ => cases hcompile
    | given hgiven hread => exact .sortClauses hgiven hread hcompile

/-! ## The whole build -/

/-- The end of a build whose input has been read. -/
def built (input : QueryInput) : Except Failure Outcome :=
  ((buildQuery input).mapError Failure.ofQueryError).map fun query => { data := queryData query }

/-- The end of a build. -/
def result (s : Setup) : Except Failure Outcome := do
  let input ← s.arguments.queryInput s.files s.stdin
  if input.isAdvanced then
    let loaded ← (Config.load s.files s.path).mapError (Failure.ofLoadFault s.path)
    built { input with operators := some loaded.operators }
  else built input

theorem perform_fst (a : BuildArguments) (path : Path) (stdin : List UInt8) (j : Log.Journal) :
    (a.perform ⟨path, none⟩ stdin j).1 = result ⟨a, j.files, stdin, path⟩ := by
  have hlogged (j : Log.Journal) (input : QueryInput) : (buildLogged j input).1 = built input := by
    rw [buildLogged, built]
    cases buildQuery input <;> rfl
  rw [BuildArguments.perform, result]
  cases a.queryInput j.files stdin with
  | error failure => rfl
  | ok input =>
    change _ = if input.isAdvanced then _ else _
    by_cases hadvanced : input.isAdvanced = true
    · simp only [hadvanced, if_true, loadLogged, Config.Cache.load]
      cases Config.load j.files path with
      | error fault => rfl
      | ok loaded => exact hlogged _ _
    · simp only [hadvanced]
      exact hlogged j input

theorem covers_config (hadvanced : s.IsAdvanced) :
    s.Covers [.config] (fun loaded => Config.load s.files s.path = .ok loaded)
      ((Config.load s.files s.path).mapError (Failure.ofLoadFault s.path)) := by
  cases hload : Config.load s.files s.path with
  | error fault => exact firstFault_head (.config hadvanced hload)
  | ok loaded =>
    refine covers_of_clear rfl ?_
    intro failure hfault
    cases hfault with
    | config _ hload' => cases hload.symm.trans hload'

theorem Describes.withOperators (h : s.Describes input) (operators : Option OperatorTable) :
    s.Describes { input with operators } :=
  ⟨h.filter, h.sort, h.settings⟩

theorem covers_built_advanced (h : s.Describes input) (hadvanced : s.IsAdvanced)
    (hload : Config.load s.files s.path = .ok loaded) (htable : input.table = loaded.operators) :
    s.Covers [.conflict, .filterClauses, .sortClauses] (fun _ => True) (built input) := by
  have hgives := h.givesAdvanced_iff.2 hadvanced
  by_cases hsettings : s.basicSettings = []
  · refine .cons ?_ ?_
    · intro failure hfault
      cases hfault with
      | conflict _ hne => exact hne hsettings
    · obtain ⟨filter, hfilter, hfilterValue⟩ := h.filter
      obtain ⟨sort, hsort, hsortValue⟩ := h.sort
      have hgiven := hsort.ne_none_of_isAdvanced hadvanced
      have hnot : ¬input.Conflicts := by
        rw [QueryInput.conflicts_iff, h.settings]
        exact fun hconflicts => hconflicts.2 hsettings
      obtain ⟨r, hr⟩ := exists_advances loaded.operators (valueOf Json.toValue filter)
        (valueOf Json.toValue sort)
      rw [built, buildQuery_of_advanced_alone hgives hnot, htable, hfilterValue, hsortValue,
        hr.build_eq]
      have hclear {fragments : List String} (hcompile : compileFilter loaded.operators
          (valueOf Json.toValue filter) = .ok fragments) (failure : Failure) :
          ¬s.Fault .filterClauses failure := by
        rw [fault_filterClauses_iff hfilter hload]
        rintro ⟨e, herror, -⟩
        cases hcompile.symm.trans herror
      cases hr with
      | missingSort hnone => exact absurd hnone hgiven
      | filterFault _ herror =>
        exact firstFault_head ((fault_filterClauses_iff hfilter hload).2 ⟨_, herror, rfl⟩)
      | sortFault _ hcompile herror =>
        exact .cons (hclear hcompile) (firstFault_head ((fault_sortClauses_iff hsort).2
          ⟨_, herror, rfl⟩))
      | query _ hcompile hkeys =>
        refine .cons (hclear hcompile) (covers_of_clear trivial ?_)
        intro failure
        rw [fault_sortClauses_iff hsort]
        rintro ⟨e, herror, -⟩
        cases hkeys.symm.trans herror
  · have hconflicts : input.Conflicts :=
      QueryInput.conflicts_iff.2 ⟨hgives, by rwa [h.settings]⟩
    rw [built, buildQuery_of_conflicts hconflicts, h.settings]
    exact firstFault_head (.conflict hadvanced hsettings)

/-- Without a filter and a sort there is nothing at fault once the input has been read. -/
theorem isClear_of_not_isAdvanced (h : ¬s.IsAdvanced) :
    s.IsClear [.config, .conflict, .filterClauses, .sortClauses] := by
  intro stage hstage failure hfault
  cases hfault with
  | config hadvanced _ => exact h hadvanced
  | conflict hadvanced _ => exact h hadvanced
  | filterClauses htext _ _ _ => exact h (.inl htext.hasFilter)
  | sortClauses hsort _ _ => exact h (.inr (by rw [hsort]; rfl))
  | _ => simp at hstage

theorem exists_built_basic {texts : List String} (hread : BuildArguments.IsRead texts input)
    (h : ¬input.GivesAdvanced) : ∃ outcome, built input = .ok outcome := by
  obtain ⟨text, htext⟩ := exists_basicQuery hread
  rw [built, buildQuery_of_basic h, QueryRequest.build, htext]
  exact ⟨_, rfl⟩

theorem covers_result (s : Setup) : s.Covers Stage.all (fun _ => True) s.result := by
  have hread : s.Covers [.bothFilters, .filterFile, .filter, .sort, .missingSort, .exact, .contains]
      (fun input => s.Describes input ∧
        BuildArguments.IsRead (s.arguments.clauseTexts s.files s.stdin) input)
      (s.arguments.queryInput s.files s.stdin) := by
    have hcovers := covers_queryInput s
    have hyields := BuildArguments.yields_queryInput s.arguments s.files s.stdin
    cases hinput : s.arguments.queryInput s.files s.stdin with
    | error failure =>
      rw [hinput] at hcovers
      exact hcovers
    | ok input =>
      rw [hinput] at hcovers hyields
      exact ⟨⟨hcovers.1, hyields⟩, hcovers.2⟩
  refine hread.bind fun input hinput => ?_
  obtain ⟨hdescribes, hisRead⟩ := hinput
  by_cases hadvanced : s.IsAdvanced
  · rw [if_pos (QueryInput.isAdvanced_iff.2 (hdescribes.givesAdvanced_iff.2 hadvanced))]
    exact (covers_config hadvanced).bind fun loaded hload =>
      covers_built_advanced (hdescribes.withOperators _) hadvanced hload rfl
  · have hbasic : ¬input.GivesAdvanced := fun hgives =>
      hadvanced (hdescribes.givesAdvanced_iff.1 hgives)
    rw [if_neg fun h => hbasic (QueryInput.isAdvanced_iff.1 h)]
    obtain ⟨outcome, houtcome⟩ := exists_built_basic hisRead hbasic
    rw [houtcome]
    exact ⟨trivial, isClear_of_not_isAdvanced hadvanced⟩

/-- A build fails with the first fault of its stages. -/
theorem result_eq_error_iff : s.result = .error failure ↔ s.FirstFault Stage.all failure := by
  have hcovers := covers_result s
  cases hresult : s.result with
  | ok outcome =>
    rw [hresult] at hcovers
    refine iff_of_false nofun ?_
    rintro ⟨before, stage, after, hstages, hfault, -⟩
    exact hcovers.2 stage (by simp [hstages]) failure hfault
  | error other =>
    rw [hresult] at hcovers
    rw [Except.error.injEq]
    exact ⟨fun h => h ▸ hcovers, fun h => FirstFault.unique hcovers h⟩

theorem exists_result_eq_ok_iff : (∃ outcome, s.result = .ok outcome) ↔ s.IsClear Stage.all := by
  have hcovers := covers_result s
  cases hresult : s.result with
  | ok outcome =>
    rw [hresult] at hcovers
    exact iff_of_true ⟨outcome, rfl⟩ hcovers.2
  | error failure =>
    rw [hresult] at hcovers
    refine iff_of_false nofun ?_
    obtain ⟨before, stage, after, hstages, hfault, -⟩ := hcovers
    exact fun hclear => hclear stage (by simp [hstages]) failure hfault

end Setup

/-! ## Kinds of errors -/

/-- The details of a failure name a kind of error. -/
def Failure.Reports (failure : Failure) (kind : String) : Prop :=
  ∃ details ∈ failure.info.details, Json.member? details "error" = some (.str kind)

theorem Failure.reports_ofBuildError {e : BuildError} {kind : String}
    (h : e.fault ≠ .longInteger) : (Failure.ofBuildError e).Reports kind ↔ kind = e.fault.kind := by
  have hdetails : (Failure.ofBuildError e).info.details =
      some (queryDetails e.fault.kind e.clause (e.index.map Int.ofNat)) := by
    rw [ofBuildError_of_ne h]
    rfl
  simp [Reports, hdetails, queryDetails, Json.member?, eq_comm]

theorem Failure.not_reports {kind : String} (h : failure.info.details = none) :
    ¬failure.Reports kind := by
  rintro ⟨details, hdetails, -⟩
  cases h.symm.trans hdetails

theorem details_of_readFilterFile {files : Files} {stdin : List UInt8} {file : String}
    (h : readFilterFile files stdin file = .error failure) : failure.info.details = none := by
  rw [readFilterFile] at h
  split at h
  · obtain rfl := Except.error.inj h
    rfl
  · split at h
    · obtain rfl := Except.error.inj h
      rfl
    · cases h

theorem details_of_readClauses (h : readClauses option text = .error failure) :
    failure.info.details = none := by
  rw [readClauses] at h
  cases hread : Json.read text with
  | error fault =>
    rw [hread] at h
    obtain rfl := Except.error.inj h
    cases fault <;> rfl
  | ok json =>
    rw [hread] at h
    cases hcoerce : coerceClauses json with
    | ok clauses => simp [hcoerce, Except.mapError] at h
    | error fault =>
      obtain rfl : ClauseFault.failure option fault = failure := by
        simpa [hcoerce, Except.mapError] using h
      cases fault <;> rfl

/-- No stage looks for a sort that is missing but the one that is named for it, which reports a
wrong use. -/
theorem Setup.Fault.not_missingSort {s : Setup} {stage : Stage} (h : s.Fault stage failure) :
    ¬failure.Reports "MissingSortError" := by
  cases h with
  | filterFile _ hread => exact Failure.not_reports (details_of_readFilterFile hread)
  | filter _ _ hread => exact Failure.not_reports (details_of_readClauses hread)
  | sort _ _ hread => exact Failure.not_reports (details_of_readClauses hread)
  | config _ hload => cases ‹Config.LoadFault› <;> exact Failure.not_reports rfl
  | conflict _ _ =>
    let e : BuildError := ⟨.conflictingModes s.basicSettings, .none, none⟩
    have hfault : e.fault ≠ .longInteger := nofun
    rw [Failure.reports_ofBuildError hfault]
    simp [e, Fault.kind]
  | filterClauses _ hread _ hcompile =>
    obtain ⟨_, _, fault, -, hrefused, -, rfl⟩ :=
      (clausesHoldTexts_of_readClauses hread).refused_of_compileFilter hcompile
    rw [Failure.reports_ofBuildError hrefused.ne_longInteger]
    exact hrefused.kind_ne.2.symm
  | sortClauses _ hread hcompile =>
    obtain ⟨_, _, fault, -, hunsortable, -, rfl⟩ :=
      (clausesHoldTexts_of_readClauses hread).unsortable_of_compileSort hcompile
    rw [Failure.reports_ofBuildError hunsortable.ne_longInteger]
    exact hunsortable.kind_ne.2.symm
  | _ => exact Failure.not_reports rfl

/-! ## The run -/

/-- The setup of a build that a run reaches. -/
def Host.setup (host : Host) (files : Files) (g : Globals) (a : BuildArguments) : Setup :=
  ⟨a, (host.journal files g).files, host.stdin, configPath host.environment g.config⟩

/-- A run ends by showing a result of a build, behind what has been logged. Only if what there is to
show holds a lone surrogate from the JSON that has been read does it end with 1 instead. -/
def ShowsBuild (host : Host) (files : Files) (arguments : List String) (g : Globals)
    (a : BuildArguments) (format : Format) (result : Except Failure Outcome) : Prop :=
  let heading := host.heading g (.build a)
  ∃ finished j, finish (g.display format) heading result = finished ∧
    run host files arguments = (.finished finished.exitCode finished.stdout
      (logLines j ++ finished.stderr), j.files) ∧
    (finished = conclude (g.display format) heading result ∨
      finished.IsUnwritten (g.display format) heading result)

variable {host : Host} {files : Files} {arguments : List String} {g : Globals}
  {a : BuildArguments} {format : Format}

theorem showsBuild_of_reaches (hreach : Reaches host files arguments g ⟨.build a, format⟩) :
    ShowsBuild host files arguments g a format (host.setup files g a).result := by
  obtain ⟨result, j, hperform⟩ : ∃ result j, (Command.build a).perform host
      (configPath host.environment g.config) (host.journal files g) = (result, j) := ⟨_, _, rfl⟩
  have hresult : (host.setup files g a).result = result := by
    rw [Host.setup, ← Setup.perform_fst]
    exact congrArg Prod.fst hperform
  rw [hresult]
  exact ⟨_, _, rfl, run_of_finish hreach hperform rfl, finish_cases _ _ _⟩

/-- An integer of too many digits is reported before the missing sort. -/
theorem run_build_of_tooManyDigits {count : Nat}
    (hread : Json.read text = .error (.tooManyDigits count)) :
    ∃ lines files, run {} {} ["build", "--filter", text] =
      (.finished 1 (.plain "") lines, files) := by
  have hreach : Reaches {} {} ["build", "--filter", text] {}
      ⟨.build { filter := some text }, .table⟩ :=
    ⟨"build", ["--filter", text], .command .build, by cbv, rfl, by cbv⟩
  let failure := readFailure "--filter" (.tooManyDigits count)
  have hfilter : readClauses "--filter" text = .error failure := by
    rw [readClauses, hread]
  have hperform : (Command.build { filter := some text }).perform {} (configPath {} none)
      (Host.journal {} {} {}) = (.error failure, Host.journal {} {} {}) := by
    rw [Command.perform, BuildArguments.perform, BuildArguments.queryInput,
      BuildArguments.filterClauses]
    simp only [hfilter]
    rfl
  exact ⟨_, _, run_of_finish hreach hperform (finish_failure_of_table rfl _ failure)⟩

end CaretQuery.CommandLine
