import CaretQuery.Proofs.CommandLine.Checks
import CaretQuery.Proofs.CommandLine.Refusals
import CaretQuery.Proofs.Query.Modes
import CaretQuery.Proofs.Text.Trimming

/-! # Matches on the command line

The text of a match is a field, with blanks around it if need be, and a value
behind the first equals sign. Fields and values are read back from such texts,
and a build that is given nothing but matches prints the basic query of them.
-/
namespace CaretQuery.CommandLine

open Text (AllBlank IsTrimmed)

variable {option raw : String} {raws : List String} {pair : String × String}
  {pairs : List (String × String)}

/-! ## Texts of matches -/

/-- A name that the field of a match can have. -/
structure IsMatchField (field : String) : Prop where
  ne_empty : field ≠ ""
  equals_notMem : '=' ∉ field.toList
  isTrimmed : IsTrimmed field.toList

/-- A text gives a field, with blanks around it, and a value behind an equals sign. -/
def SpellsMatch (raw : String) (pair : String × String) : Prop :=
  IsMatchField pair.1 ∧ ∃ before after : String, AllBlank before.toList ∧ AllBlank after.toList ∧
    raw = before ++ pair.1 ++ after ++ "=" ++ pair.2

/-- The text of a match without blanks around the field. -/
def rawMatch (pair : String × String) : String := pair.1 ++ "=" ++ pair.2

theorem isBlank_equals : Text.isBlank '=' = false := by decide

theorem spellsMatch_of_splitMatch (h : splitMatch raw = some pair) : SpellsMatch raw pair := by
  have hmem : '=' ∈ raw.toList := by
    by_contra hnone
    cases (splitMatch_eq_none (.inl hnone)).symm.trans h
  obtain ⟨before, value, hraw, hbefore⟩ := List.eq_append_cons_of_mem hmem
  obtain ⟨left, right, hleft, hright, hsplit, htrimmed⟩ := Text.exists_trim before
  rw [splitMatch_of_toList hraw hbefore] at h
  split at h
  next => cases h
  next hfield =>
    obtain rfl := Option.some.inj h
    have hnone : '=' ∉ Text.trim before := by
      intro htrim
      exact hbefore (by rw [hsplit]; simp [htrim])
    refine ⟨⟨?_, ?_, ?_⟩, String.ofList left, String.ofList right, ?_, ?_, ?_⟩
    · simpa [String.ofList_eq_empty_iff] using hfield
    · simpa using hnone
    · simpa using htrimmed
    · simpa using hleft
    · simpa using hright
    · rw [← String.toList_inj, hraw]
      conv_lhs => rw [hsplit]
      simp

theorem splitMatch_of_spellsMatch (h : SpellsMatch raw pair) : splitMatch raw = some pair := by
  obtain ⟨hfield, before, after, hbefore, hafter, rfl⟩ := h
  have hraw : (before ++ pair.1 ++ after ++ "=" ++ pair.2).toList =
      (before.toList ++ pair.1.toList ++ after.toList) ++ '=' :: pair.2.toList := by simp
  have hnone : '=' ∉ before.toList ++ pair.1.toList ++ after.toList := by
    simp only [List.mem_append, not_or]
    exact ⟨⟨hbefore.notMem isBlank_equals, hfield.equals_notMem⟩, hafter.notMem isBlank_equals⟩
  have hne : pair.1.toList ≠ [] := fun hnil => hfield.ne_empty (String.toList_eq_nil_iff.1 hnil)
  rw [splitMatch_of_toList hraw hnone, Text.trim_append_append hbefore hfield.isTrimmed hafter,
    if_neg (by simpa using hne), String.ofList_toList, String.ofList_toList]

theorem spellsMatch_rawMatch (h : IsMatchField pair.1) : SpellsMatch (rawMatch pair) pair :=
  ⟨h, "", "", List.forall_mem_nil _, List.forall_mem_nil _, by simp [rawMatch]⟩

theorem readMatch_eq_ok_iff : readMatch option raw = .ok pair ↔ SpellsMatch raw pair := by
  have hsplit : splitMatch raw = some pair ↔ SpellsMatch raw pair :=
    ⟨spellsMatch_of_splitMatch, splitMatch_of_spellsMatch⟩
  rw [← hsplit, readMatch]
  cases splitMatch raw <;> simp

/-- A text is no match exactly if it has no equals sign, or only blanks before the first one. -/
theorem isNoMatch_iff : IsNoMatch raw ↔ '=' ∉ raw.toList ∨ ∃ before value,
    raw.toList = before ++ '=' :: value ∧ '=' ∉ before ∧ AllBlank before := by
  simp only [IsNoMatch, Text.trim_eq_nil_iff]

/-! ## All matches of an option -/

theorem mapM_readMatch_eq_ok_iff :
    raws.mapM (readMatch option) = .ok pairs ↔ List.Forall₂ SpellsMatch raws pairs := by
  induction raws generalizing pairs with
  | nil => simp [pure, Except.pure, eq_comm]
  | cons raw raws ih =>
    simp only [List.mapM_cons, bind_eq_ok, readMatch_eq_ok_iff, ih, List.forall₂_cons_left_iff]
    simp [pure, Except.pure, eq_comm]

theorem readMatches_eq_none_iff : readMatches option raws = .ok none ↔ raws = [] := by
  rw [readMatches]
  cases raws with
  | nil => simp
  | cons raw raws => cases (raw :: raws).mapM (readMatch option) <;> simp [Except.map]

theorem readMatches_eq_some_iff : readMatches option raws = .ok (some pairs) ↔
    raws ≠ [] ∧ List.Forall₂ SpellsMatch raws pairs := by
  rw [readMatches, ← @mapM_readMatch_eq_ok_iff option]
  cases raws with
  | nil => simp
  | cons raw raws => cases (raw :: raws).mapM (readMatch option) <;> simp [Except.map]

theorem readMatches_eq_error_iff {failure : Failure} :
    readMatches option raws = .error failure ↔
      ∃ raw, FirstNoMatch raws raw ∧ failure = noMatchFailure option raw := by
  refine ⟨firstNoMatch_of_readMatches, ?_⟩
  rintro ⟨raw, hfirst, rfl⟩
  cases hread : readMatches option raws with
  | ok pairs => exact absurd hfirst (not_firstNoMatch_of_readMatches hread)
  | error other =>
    obtain ⟨raw', hfirst', rfl⟩ := firstNoMatch_of_readMatches hread
    rw [hfirst.unique hfirst']

theorem exists_readMatches_eq_error_iff :
    (∃ failure, readMatches option raws = .error failure) ↔ ∃ raw ∈ raws, IsNoMatch raw := by
  constructor
  · rintro ⟨failure, hfailure⟩
    obtain ⟨raw, ⟨before, after, rfl, hnomatch, -⟩, -⟩ := firstNoMatch_of_readMatches hfailure
    exact ⟨raw, by simp, hnomatch⟩
  · rintro ⟨raw, hraw, hnomatch⟩
    cases hread : readMatches option raws with
    | error failure => exact ⟨failure, rfl⟩
    | ok pairs => exact absurd hread (readMatches_ne_ok hraw hnomatch pairs)

theorem readMatches_rawMatch (option : String) (h : ∀ pair ∈ pairs, IsMatchField pair.1) :
    readMatches option (pairs.map rawMatch) =
      .ok (if pairs.isEmpty then none else some pairs) := by
  split
  next hnil =>
    rw [List.isEmpty_iff.1 hnil]
    exact readMatches_eq_none_iff.2 rfl
  next hne =>
    rw [readMatches_eq_some_iff, List.forall₂_map_left_iff, List.forall₂_same]
    exact ⟨by simpa using hne, fun pair hpair => spellsMatch_rawMatch (h pair hpair)⟩

/-! ## Arguments that give matches -/

/-- Arguments that give exact and other matches in any order, each with its option before it or
attached to it. -/
inductive GivesMatches : List String → List String → List String → Prop
  | nil : GivesMatches [] [] []
  | exact {arguments exact contains : List String} (raw : String)
      (hrest : GivesMatches arguments exact contains) :
      GivesMatches ("--match-exact" :: raw :: arguments) (raw :: exact) contains
  | exactAttached {arguments exact contains : List String} (raw : String)
      (hrest : GivesMatches arguments exact contains) :
      GivesMatches (("--match-exact=" ++ raw) :: arguments) (raw :: exact) contains
  | contains {arguments exact contains : List String} (raw : String)
      (hrest : GivesMatches arguments exact contains) :
      GivesMatches ("--match-contains" :: raw :: arguments) exact (raw :: contains)
  | containsAttached {arguments exact contains : List String} (raw : String)
      (hrest : GivesMatches arguments exact contains) :
      GivesMatches (("--match-contains=" ++ raw) :: arguments) exact (raw :: contains)

theorem splitValue_append {name : String} (hname : '=' ∉ name.toList) (value : String) :
    Scan.splitValue (name ++ "=" ++ value) = (name, some value) := by
  have hargument : (name ++ "=" ++ value).toList = name.toList ++ '=' :: value.toList := by simp
  rw [Scan.splitValue, hargument, takeWhile_ne_equals hname]
  simp only [List.drop_left, String.ofList_toList]

/-- A scan of options that give matches only. -/
structure ScansMatches (s : Scan) (exact contains : List String) : Prop where
  names : ∀ option ∈ s.given, option.name ∈ ["--match-exact", "--match-contains"]
  rest : s.rest = []
  exact : s.values "--match-exact" = exact
  contains : s.values "--match-contains" = contains

variable {arguments exact contains : List String} {s : Scan}

theorem values_addOptions (options : List Given) (s : Scan) (name : String) :
    (s.addOptions options).values name =
      Scan.values { given := options } name ++ s.values name := by
  simp [Scan.values, Scan.addOptions]

theorem ScansMatches.addExact (h : ScansMatches s exact contains) (raw : String) :
    ScansMatches (s.addOptions [⟨"--match-exact", raw⟩]) (raw :: exact) contains where
  names := List.forall_mem_cons.2 ⟨by simp, h.names⟩
  rest := h.rest
  exact := by rw [values_addOptions, h.exact]; rfl
  contains := by rw [values_addOptions, h.contains]; rfl

theorem ScansMatches.addContains (h : ScansMatches s exact contains) (raw : String) :
    ScansMatches (s.addOptions [⟨"--match-contains", raw⟩]) exact (raw :: contains) where
  names := List.forall_mem_cons.2 ⟨by simp, h.names⟩
  rest := h.rest
  exact := by rw [values_addOptions, h.exact]; rfl
  contains := by rw [values_addOptions, h.contains]; rfl

theorem scan_separate {name : String} (hname : name ∈ ["--match-exact", "--match-contains"])
    (raw : String) (arguments : List String) :
    Scan.scan CommandForm.build.allSpecs true (name :: raw :: arguments) =
      (Scan.scan CommandForm.build.allSpecs true arguments).map
        (Scan.addOptions [⟨name, raw⟩]) := by
  rcases List.mem_pair.1 hname with rfl | rfl
  · exact scan_of_awaiting (by cbv) (by decide) (by cbv) true raw arguments
  · exact scan_of_awaiting (by cbv) (by decide) (by cbv) true raw arguments

theorem scan_attached {name : String} (hname : name ∈ ["--match-exact", "--match-contains"])
    (raw : String) (arguments : List String) :
    Scan.scan CommandForm.build.allSpecs true ((name ++ "=" ++ raw) :: arguments) =
      (Scan.scan CommandForm.build.allSpecs true arguments).map
        (Scan.addOptions [⟨name, raw⟩]) := by
  have hsplit : Scan.splitValue (name ++ "=" ++ raw) = (name, some raw) :=
    splitValue_append (by revert name; decide) raw
  have hdashes : ∃ rest, (name ++ "=" ++ raw).toList = '-' :: '-' :: 'm' :: rest := by
    rcases List.mem_pair.1 hname with rfl | rfl <;> exact ⟨_, by simp; rfl⟩
  obtain ⟨rest, hrest⟩ := hdashes
  apply scan_of_complete
  · rw [Scan.looksLikeOption, Bool.and_eq_true, String.startsWith_string_iff, bne_iff_ne, hrest]
    refine ⟨by simp, fun hdash => ?_⟩
    rw [hdash] at hrest
    simp at hrest
  · intro hdash
    rw [hdash] at hrest
    simp at hrest
  · rw [Scan.readOption, hsplit]
    rcases List.mem_pair.1 hname with rfl | rfl <;> cbv

theorem GivesMatches.exists_scan (h : GivesMatches arguments exact contains) :
    ∃ s, Scan.scan CommandForm.build.allSpecs true arguments = .ok s ∧
      ScansMatches s exact contains := by
  induction h with
  | nil => exact ⟨{}, rfl, by simp, rfl, rfl, rfl⟩
  | exact raw hrest ih =>
    obtain ⟨s, hscan, hs⟩ := ih
    exact ⟨_, by rw [scan_separate (by simp), hscan]; rfl, hs.addExact raw⟩
  | exactAttached raw hrest ih =>
    obtain ⟨s, hscan, hs⟩ := ih
    have hargument : "--match-exact=" ++ raw = "--match-exact" ++ "=" ++ raw := rfl
    exact ⟨_, by rw [hargument, scan_attached (by simp), hscan]; rfl, hs.addExact raw⟩
  | contains raw hrest ih =>
    obtain ⟨s, hscan, hs⟩ := ih
    exact ⟨_, by rw [scan_separate (by simp), hscan]; rfl, hs.addContains raw⟩
  | containsAttached raw hrest ih =>
    obtain ⟨s, hscan, hs⟩ := ih
    have hargument : "--match-contains=" ++ raw = "--match-contains" ++ "=" ++ raw := rfl
    exact ⟨_, by rw [hargument, scan_attached (by simp), hscan]; rfl, hs.addContains raw⟩

theorem ScansMatches.value?_eq_none (h : ScansMatches s exact contains) {name : String}
    (hname : name ∉ ["--match-exact", "--match-contains"]) : s.value? name = none := by
  have hvalues : s.values name = [] := by
    rw [Scan.values, List.map_eq_nil_iff, List.filter_eq_nil_iff]
    intro option hoption hsame
    exact hname (beq_iff_eq.1 hsame ▸ h.names option hoption)
  rw [Scan.value?, hvalues]
  rfl

theorem ScansMatches.has_eq_false (h : ScansMatches s exact contains) {name : String}
    (hname : name ∉ ["--match-exact", "--match-contains"]) : s.has name = false := by
  rw [Scan.has, List.any_eq_false]
  intro option hoption hsame
  exact hname (beq_iff_eq.1 hsame ▸ h.names option hoption)

theorem ScansMatches.formatAfter_eq (h : ScansMatches s exact contains) (format : Format) :
    formatAfter s format = format := by
  have hnames : ∀ name ∈ s.names, name ∈ ["--match-exact", "--match-contains"] := by
    intro name hname
    obtain ⟨option, hoption, rfl⟩ := List.mem_map.1 (List.mem_eraseDups.1 hname)
    exact h.names option hoption
  rw [formatAfter]
  generalize s.names = names at hnames
  induction names with
  | nil => rfl
  | cons name names ih =>
    rw [List.forall_mem_cons] at hnames
    have hjson : name ≠ "--json" := ne_of_mem_of_not_mem hnames.1 (by decide)
    have houtput : name ≠ "--output" := ne_of_mem_of_not_mem hnames.1 (by decide)
    rw [List.foldl_cons, if_neg hjson, if_neg houtput, ih hnames.2]

theorem ScansMatches.ofScan_eq (h : ScansMatches s exact contains) :
    BuildArguments.ofScan s = { exact, contains } := by
  simp [BuildArguments.ofScan, h.value?_eq_none, h.exact, h.contains]

/-- No check looks at a match. -/
theorem ScansMatches.runChecks_eq (h : ScansMatches s exact contains) (files : Files) :
    runChecks files (CommandForm.build.checks ++ [formatCheck]) s = .ok () := by
  refine runChecks_eq_ok fun check hcheck value hvalue => ?_
  have hoption : ∀ check ∈ CommandForm.build.checks ++ [formatCheck],
      check.option ∉ ["--match-exact", "--match-contains"] := by decide
  cases (h.value?_eq_none (hoption check hcheck)).symm.trans hvalue

theorem read_of_givesMatches (h : GivesMatches arguments exact contains) (files : Files)
    (format : Format) : CommandForm.build.read files format arguments =
      .ok (.run ⟨.build { exact, contains }, format⟩) := by
  obtain ⟨s, hscan, hs⟩ := h.exists_scan
  have hhelp : s.has "--help" = false := hs.has_eq_false (by decide)
  have hrest : s.rest.isEmpty = true := by rw [hs.rest]; rfl
  have hcommand : CommandForm.build.command s = .build { exact, contains } := by
    rw [← hs.ofScan_eq]
    rfl
  rw [CommandForm.read, hscan]
  simp only [bind, Except.bind, hhelp, Bool.false_eq_true, if_false, hs.runChecks_eq files, hrest,
    if_true, hcommand, hs.formatAfter_eq]

/-! ## Builds of matches -/

/-- Matches with their values as texts. -/
def textPairs (pairs : List (String × String)) : List (String × Value) :=
  pairs.map fun pair => (pair.1, .str pair.2)

theorem haveTexts_textPairs (pairs : List (String × String)) : HaveTexts (textPairs pairs) :=
  List.forall_mem_map.2 fun pair _ => Value.isWritable_str pair.2

/-- The input of a basic query with its matches and the defaults for the rest. -/
def matchesInput (exact contains : List (String × String)) : BasicInput where
  exact := pairList (textPairs exact)
  contains := pairList (textPairs contains)

/-- Without matches it is the same whether none are given or an empty list. -/
theorem matchFragments_matchesValue (token : String) (pairs : List (String × String)) :
    matchFragments token (matchesValue (if pairs.isEmpty then none else some pairs)) =
      matchFragments token (pairList (textPairs pairs)) := by
  cases pairs with
  | nil => rfl
  | cons pair pairs => simp [matchesValue, pairList, textPairs, Function.comp_def]

theorem exists_buildQuery_of_matches (exact contains : List (String × String)) :
    ∃ query, basicQuery (matchesInput exact contains) = .ok query ∧
      buildQuery {
        exact := matchesValue (if exact.isEmpty then none else some exact)
        contains := matchesValue (if contains.isEmpty then none else some contains) } =
          .ok ⟨.basic, query⟩ := by
  have hquery : basicQuery (matchesInput exact contains) = _ :=
    basicQuery_pairList "opened_at" .desc
      (haveTexts_append.2 ⟨haveTexts_textPairs exact, haveTexts_textPairs contains⟩)
  have hbuild : buildQuery {
      exact := matchesValue (if exact.isEmpty then none else some exact)
      contains := matchesValue (if contains.isEmpty then none else some contains) } =
        (basicQuery (matchesInput exact contains)).map (⟨.basic, ·⟩) := by
    rw [buildQuery_of_basic (by simp [QueryInput.GivesAdvanced]), QueryRequest.build]
    simp only [basicQuery, basicMatches, QueryInput.toBasic, matchFragments_matchesValue,
      matchesInput]
    rfl
  rw [hbuild, hquery]
  exact ⟨_, rfl, rfl⟩

theorem run_build_of_matches {exact contains : List (String × String)} (host : Host)
    (files : Files) (hexact : ∀ pair ∈ exact, IsMatchField pair.1)
    (hcontains : ∀ pair ∈ contains, IsMatchField pair.1)
    (h : GivesMatches arguments (exact.map rawMatch) (contains.map rawMatch)) :
    ∃ query, basicQuery (matchesInput exact contains) = .ok query ∧
      run host files ("build" :: arguments) = (.finished 0 (.plain (query ++ "\n")) [], files) := by
  obtain ⟨query, hquery, hbuild⟩ := exists_buildQuery_of_matches exact contains
  refine ⟨query, hquery, run_build host (read_of_givesMatches h files .table) ?_
    (finish_query _ ⟨.basic, query⟩ rfl rfl nofun)⟩
  rintro j rfl hj
  have hinput : BuildArguments.queryInput
      { exact := exact.map rawMatch, contains := contains.map rawMatch } j.files host.stdin = .ok {
        exact := matchesValue (if exact.isEmpty then none else some exact)
        contains := matchesValue (if contains.isEmpty then none else some contains) } := by
    have hfirst := readMatches_rawMatch "--match-exact" hexact
    have hsecond := readMatches_rawMatch "--match-contains" hcontains
    simp only [BuildArguments.queryInput, BuildArguments.filterClauses, BuildArguments.sortClauses,
      hfirst, hsecond]
    rfl
  rw [BuildArguments.perform, hinput]
  exact buildLogged_of_ok hj hbuild

/-- Matches are read from their texts one by one: none are read from no texts,
the first text without an equals sign or with nothing but blanks before it is
refused and named, and otherwise every text is blanks, a field, blanks, an equals
sign and the value. Pairs are read back from their plain texts, and a build that
is given these as its matches prints the basic query of the pairs. -/
theorem readMatches_outcome (option : String) (raws : List String) :
    (readMatches option raws = .ok none ↔ raws = []) ∧
    ((∃ failure, readMatches option raws = .error failure) ↔
      ∃ raw ∈ raws, '=' ∉ raw.toList ∨ ∃ before value,
        raw.toList = before ++ '=' :: value ∧ '=' ∉ before ∧ AllBlank before) ∧
    (∀ failure, readMatches option raws = .error failure ↔
      ∃ raw, FirstNoMatch raws raw ∧ failure = noMatchFailure option raw) ∧
    (∀ pairs, readMatches option raws = .ok (some pairs) ↔
      raws ≠ [] ∧ List.Forall₂ SpellsMatch raws pairs) ∧
    (∀ pairs, (∀ pair ∈ pairs, IsMatchField pair.1) →
      readMatches option (pairs.map rawMatch) =
        .ok (if pairs.isEmpty then none else some pairs)) ∧
    ∀ (host : Host) (files : Files) (arguments : List String)
      (exact contains : List (String × String)), (∀ pair ∈ exact, IsMatchField pair.1) →
      (∀ pair ∈ contains, IsMatchField pair.1) →
      GivesMatches arguments (exact.map rawMatch) (contains.map rawMatch) →
      ∃ query, basicQuery (matchesInput exact contains) = .ok query ∧
        run host files ("build" :: arguments) =
          (.finished 0 (.plain (query ++ "\n")) [], files) := by
  refine ⟨readMatches_eq_none_iff, ?_, fun failure => readMatches_eq_error_iff,
    fun pairs => readMatches_eq_some_iff, fun pairs hpairs => readMatches_rawMatch option hpairs,
    fun host files arguments exact contains hexact hcontains hgives =>
      run_build_of_matches host files hexact hcontains hgives⟩
  simp only [exists_readMatches_eq_error_iff, isNoMatch_iff]

/-- A value with equals signs and blanks, once attached to its option, beside one that starts with
a dash; and a text with blanks around its field. -/
theorem readMatches_outcome_two :
    readMatches "--match-exact" [rawMatch ("State", " a=b ")] = .ok (some [("State", " a=b ")]) ∧
      readMatches "--match-exact" [" State =1"] = .ok (some [("State", "1")]) ∧
      run {} {} ["build", "--match-contains", "-x=-y", "--match-exact=State= a=b "] =
        (.finished 0 (.plain "ORDERBYDESCopened_at^state= a=b ^-xLIKE-y\n") [], {}) := by
  have hstate : IsMatchField "State" := by
    have hfirst : Text.isBlank 'S' = false := by decide
    have hlast : Text.isBlank 'e' = false := by decide
    exact ⟨by decide, by decide, by simpa using hfirst, by simpa using hlast⟩
  have hdash : IsMatchField "-x" := by
    have hfirst : Text.isBlank '-' = false := by decide
    have hlast : Text.isBlank 'x' = false := by decide
    exact ⟨by decide, by decide, by simpa using hfirst, by simpa using hlast⟩
  have hblank : AllBlank " ".toList := by
    have hspace : Text.isBlank ' ' = true := by decide
    simpa [AllBlank] using hspace
  obtain ⟨-, -, -, -, hback, hrun⟩ := readMatches_outcome "--match-exact" []
  obtain ⟨-, -, -, hread, -, -⟩ := readMatches_outcome "--match-exact" [" State =1"]
  have hgives : GivesMatches ["--match-contains", "-x=-y", "--match-exact=State= a=b "]
      ([("State", " a=b ")].map rawMatch) ([("-x", "-y")].map rawMatch) :=
    .contains "-x=-y" (.exactAttached "State= a=b " .nil)
  obtain ⟨query, hquery, hprinted⟩ := hrun {} {} _ [("State", " a=b ")] [("-x", "-y")]
    (by simpa using hstate) (by simpa using hdash) hgives
  obtain rfl : "ORDERBYDESCopened_at^state= a=b ^-xLIKE-y" = query := by
    apply Except.ok.inj
    rw [← hquery]
    rfl
  refine ⟨hback [("State", " a=b ")] (by simpa using hstate), ?_, hprinted⟩
  exact (hread _).2 ⟨by simp, .cons ⟨hstate, " ", " ", hblank, hblank, by decide⟩ .nil⟩

end CaretQuery.CommandLine
