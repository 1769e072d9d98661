import CaretQuery.Proofs.CommandLine.Refusals

/-! # The stages of a build

A build looks for faults stage by stage: in the filter, the sort and the matches
as they are given, then in the configuration, the choice of the mode and the
clauses. Each stage has faults of its own, which depend on a part of the input
only, and has no more than one at a time.
-/
namespace CaretQuery.CommandLine

open BuildArguments (sortHint)

variable {failure : Failure} {option text : String}

/-! ## Stages and their faults -/

/-- What a build starts from. -/
structure Setup where
  arguments : BuildArguments
  files : Files
  stdin : List UInt8
  path : Path

inductive Stage where
  /-- There are a filter and a filter file. -/
  | bothFilters
  /-- The filter file cannot be read. -/
  | filterFile
  /-- The text of the filter gives no clauses. -/
  | filter
  /-- The text of the sort gives no clauses. -/
  | sort
  /-- There is a filter without a sort. -/
  | missingSort
  | exact
  | contains
  /-- The configuration cannot be loaded. -/
  | config
  /-- There are settings of basic mode beside a filter or a sort. -/
  | conflict
  /-- The filter does not compile. -/
  | filterClauses
  /-- The sort does not compile. -/
  | sortClauses
  deriving DecidableEq, Repr

/-- The stages in their order. -/
def Stage.all : List Stage :=
  [.bothFilters, .filterFile, .filter, .sort, .missingSort, .exact, .contains, .config, .conflict,
    .filterClauses, .sortClauses]

namespace Setup

variable {s t : Setup}

def HasFilter (s : Setup) : Prop := s.arguments.filter.isSome ∨ s.arguments.filterFile.isSome

def IsAdvanced (s : Setup) : Prop := s.HasFilter ∨ s.arguments.sort.isSome

/-- The text of the filter and the option that gives it. -/
inductive FilterText (s : Setup) : String → String → Prop
  | option {text : String} (hfilter : s.arguments.filter = some text) :
      FilterText s "--filter" text
  | file {file text : String} (hfilter : s.arguments.filter = none)
      (hfile : s.arguments.filterFile = some file)
      (hread : readFilterFile s.files s.stdin file = .ok text) : FilterText s "--filter-file" text

/-- The names of the settings of basic mode that are given. -/
def basicSettings (s : Setup) : List String :=
  ([("order_by", s.arguments.orderBy.isSome), ("order_direction", s.arguments.direction.isSome),
    ("match_exact", !s.arguments.exact.isEmpty),
    ("match_contains", !s.arguments.contains.isEmpty)].filter Prod.snd).map Prod.fst

/-- The fault that a stage finds, whatever the others find. -/
inductive Fault (s : Setup) : Stage → Failure → Prop
  | bothFilters (hfilter : s.arguments.filter.isSome) (hfile : s.arguments.filterFile.isSome) :
      Fault s .bothFilters (.usage "Use only one of --filter and --filter-file.")
  | filterFile {file : String} {failure : Failure} (hfile : s.arguments.filterFile = some file)
      (hread : readFilterFile s.files s.stdin file = .error failure) : Fault s .filterFile failure
  | filter {option text : String} {failure : Failure} (htext : s.FilterText option text)
      (hnone : IsNoClauses text) (hread : readClauses option text = .error failure) :
      Fault s .filter failure
  | sort {text : String} {failure : Failure} (hsort : s.arguments.sort = some text)
      (hnone : IsNoClauses text) (hread : readClauses "--sort" text = .error failure) :
      Fault s .sort failure
  | missingSort (hfilter : s.HasFilter) (hsort : s.arguments.sort = none) :
      Fault s .missingSort (.usage "Advanced mode requires --sort." sortHint)
  | exact {raw : String} (hraw : FirstNoMatch s.arguments.exact raw) :
      Fault s .exact (noMatchFailure "--match-exact" raw)
  | contains {raw : String} (hraw : FirstNoMatch s.arguments.contains raw) :
      Fault s .contains (noMatchFailure "--match-contains" raw)
  | config {fault : Config.LoadFault} (hadvanced : s.IsAdvanced)
      (hload : Config.load s.files s.path = .error fault) :
      Fault s .config (.ofLoadFault s.path fault)
  | conflict (hadvanced : s.IsAdvanced) (hsettings : s.basicSettings ≠ []) :
      Fault s .conflict (.ofBuildError ⟨.conflictingModes s.basicSettings, .none, none⟩)
  | filterClauses {option text : String} {json : Json} {loaded : Config.Loaded} {e : BuildError}
      (htext : s.FilterText option text) (hread : readClauses option text = .ok json)
      (hload : Config.load s.files s.path = .ok loaded)
      (hfault : compileFilter loaded.operators json.toValue = .error e) :
      Fault s .filterClauses (.ofBuildError e)
  | sortClauses {text : String} {json : Json} {e : BuildError}
      (hsort : s.arguments.sort = some text) (hread : readClauses "--sort" text = .ok json)
      (hfault : compileSort json.toValue = .error e) : Fault s .sortClauses (.ofBuildError e)

def IsClear (s : Setup) (stages : List Stage) : Prop :=
  ∀ stage ∈ stages, ∀ failure, ¬s.Fault stage failure

/-- A fault of one of the stages, with no fault of the stages before. -/
def FirstFault (s : Setup) (stages : List Stage) (failure : Failure) : Prop :=
  ∃ before stage after, stages = before ++ stage :: after ∧ s.Fault stage failure ∧
    s.IsClear before

variable {stages : List Stage}

theorem FilterText.hasFilter (h : s.FilterText option text) : s.HasFilter := by
  cases h with
  | option hfilter => exact .inl (by rw [hfilter]; rfl)
  | file _ hfile _ => exact .inr (by rw [hfile]; rfl)

theorem FilterText.unique {option' text' : String} (h : s.FilterText option text)
    (h' : s.FilterText option' text') : option = option' ∧ text = text' := by
  cases h with
  | option hfilter =>
    cases h' with
    | option hfilter' => exact ⟨rfl, Option.some.inj (hfilter.symm.trans hfilter')⟩
    | file hnone _ _ => cases hfilter.symm.trans hnone
  | file hnone hfile hread =>
    cases h' with
    | option hfilter => cases hfilter.symm.trans hnone
    | file _ hfile' hread' =>
      obtain rfl := Option.some.inj (hfile.symm.trans hfile')
      exact ⟨rfl, Except.ok.inj (hread.symm.trans hread')⟩

/-! ## One fault at a time -/

theorem Fault.unique {stage : Stage} {other : Failure} (h : s.Fault stage failure)
    (h' : s.Fault stage other) : failure = other := by
  cases h with
  | bothFilters _ _ => cases h'; rfl
  | filterFile hfile hread =>
    cases h' with
    | filterFile hfile' hread' =>
      obtain rfl := Option.some.inj (hfile.symm.trans hfile')
      exact Except.error.inj (hread.symm.trans hread')
  | filter htext _ hread =>
    cases h' with
    | filter htext' _ hread' =>
      obtain ⟨rfl, rfl⟩ := htext.unique htext'
      exact Except.error.inj (hread.symm.trans hread')
  | sort hsort _ hread =>
    cases h' with
    | sort hsort' _ hread' =>
      obtain rfl := Option.some.inj (hsort.symm.trans hsort')
      exact Except.error.inj (hread.symm.trans hread')
  | missingSort _ _ => cases h'; rfl
  | exact hraw =>
    cases h' with
    | exact hraw' => rw [hraw.unique hraw']
  | contains hraw =>
    cases h' with
    | contains hraw' => rw [hraw.unique hraw']
  | config _ hload =>
    cases h' with
    | config _ hload' => rw [Except.error.inj (hload.symm.trans hload')]
  | conflict _ _ => cases h'; rfl
  | filterClauses htext hread hload hcompile =>
    cases h' with
    | filterClauses htext' hread' hload' hcompile' =>
      obtain ⟨rfl, rfl⟩ := htext.unique htext'
      obtain rfl := Except.ok.inj (hread.symm.trans hread')
      obtain rfl := Except.ok.inj (hload.symm.trans hload')
      rw [Except.error.inj (hcompile.symm.trans hcompile')]
  | sortClauses hsort hread hcompile =>
    cases h' with
    | sortClauses hsort' hread' hcompile' =>
      obtain rfl := Option.some.inj (hsort.symm.trans hsort')
      obtain rfl := Except.ok.inj (hread.symm.trans hread')
      rw [Except.error.inj (hcompile.symm.trans hcompile')]

theorem FirstFault.unique {other : Failure} (h : s.FirstFault stages failure)
    (h' : s.FirstFault stages other) : failure = other := by
  obtain ⟨before, stage, after, hstages, hfault, hclear⟩ := h
  obtain ⟨before', stage', after', hstages', hfault', hclear'⟩ := h'
  have hsame : stage = stage' :=
    eq_of_first (p := fun stage => ∃ failure, s.Fault stage failure)
      (hstages.symm.trans hstages') ⟨failure, hfault⟩ ⟨other, hfault'⟩
      (fun stage hstage ⟨failure, hfault⟩ => hclear stage hstage failure hfault)
      (fun stage hstage ⟨failure, hfault⟩ => hclear' stage hstage failure hfault)
  subst hsame
  exact hfault.unique hfault'

/-! ## What a stage looks at -/

/-- The part of the input that a stage looks at is the same. -/
def SameInput (s t : Setup) : Stage → Prop
  | .bothFilters =>
    s.arguments.filter.isSome = t.arguments.filter.isSome ∧
      s.arguments.filterFile.isSome = t.arguments.filterFile.isSome
  | .filterFile =>
    s.arguments.filterFile.map (readFilterFile s.files s.stdin) =
      t.arguments.filterFile.map (readFilterFile t.files t.stdin)
  | .filter => ∀ option text, s.FilterText option text ↔ t.FilterText option text
  | .sort | .sortClauses => s.arguments.sort = t.arguments.sort
  | .missingSort =>
    (s.HasFilter ↔ t.HasFilter) ∧ s.arguments.sort.isSome = t.arguments.sort.isSome
  | .exact => s.arguments.exact = t.arguments.exact
  | .contains => s.arguments.contains = t.arguments.contains
  | .config =>
    (s.IsAdvanced ↔ t.IsAdvanced) ∧ s.path = t.path ∧
      Config.load s.files s.path = Config.load t.files t.path
  | .conflict => (s.IsAdvanced ↔ t.IsAdvanced) ∧ s.basicSettings = t.basicSettings
  | .filterClauses =>
    (∀ option text, s.FilterText option text ↔ t.FilterText option text) ∧
      Config.load s.files s.path = Config.load t.files t.path

theorem SameInput.symm {stage : Stage} (h : s.SameInput t stage) : t.SameInput s stage := by
  cases stage with
  | bothFilters => exact ⟨h.1.symm, h.2.symm⟩
  | filter => exact fun option text => (h option text).symm
  | missingSort => exact ⟨h.1.symm, h.2.symm⟩
  | config => exact ⟨h.1.symm, h.2.1.symm, h.2.2.symm⟩
  | conflict => exact ⟨h.1.symm, h.2.symm⟩
  | filterClauses => exact ⟨fun option text => (h.1 option text).symm, h.2.symm⟩
  | _ => exact Eq.symm h

theorem Fault.congr {stage : Stage} (h : s.SameInput t stage) (hfault : s.Fault stage failure) :
    t.Fault stage failure := by
  cases hfault with
  | bothFilters hfilter hfile => exact .bothFilters (h.1 ▸ hfilter) (h.2 ▸ hfile)
  | filterFile hfile hread =>
    have hmap : t.arguments.filterFile.map (readFilterFile t.files t.stdin) =
        some (.error failure) := by
      rw [← h, hfile, Option.map_some, hread]
    obtain ⟨file, hfile', hread'⟩ := Option.map_eq_some_iff.1 hmap
    exact .filterFile hfile' hread'
  | filter htext hnone hread => exact .filter ((h _ _).1 htext) hnone hread
  | sort hsort hnone hread => exact .sort (h ▸ hsort) hnone hread
  | missingSort hfilter hsort =>
    refine .missingSort (h.1.1 hfilter) ?_
    rw [← Option.isNone_iff_eq_none, ← Option.not_isSome, ← h.2, hsort]
    rfl
  | exact hraw => exact .exact (h ▸ hraw)
  | contains hraw => exact .contains (h ▸ hraw)
  | config hadvanced hload =>
    obtain ⟨hsame, hpath, hloads⟩ := h
    rw [hpath]
    exact .config (hsame.1 hadvanced) (hloads ▸ hload)
  | conflict hadvanced hsettings =>
    rw [h.2]
    exact .conflict (h.1.1 hadvanced) (h.2 ▸ hsettings)
  | filterClauses htext hread hload hcompile =>
    exact .filterClauses ((h.1 _ _).1 htext) hread (h.2 ▸ hload) hcompile
  | sortClauses hsort hread hcompile => exact .sortClauses (h ▸ hsort) hread hcompile

/-- The later stages have no say in what the first fault is. -/
theorem firstFault_congr {before after : List Stage} {stage : Stage}
    (hstages : stages = before ++ stage :: after) (hfault : s.Fault stage failure)
    (hclear : s.IsClear before) (h : ∀ earlier ∈ before ++ [stage], s.SameInput t earlier) :
    t.FirstFault stages failure := by
  refine ⟨before, stage, after, hstages, hfault.congr (h stage (by simp)), ?_⟩
  intro earlier hearlier other hother
  exact hclear earlier hearlier other (hother.congr (h earlier (by simp [hearlier])).symm)

end Setup

end CaretQuery.CommandLine
