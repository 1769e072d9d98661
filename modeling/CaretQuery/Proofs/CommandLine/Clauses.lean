import CaretQuery.CommandLine.Build
import CaretQuery.Proofs.Clause.Texts
import CaretQuery.Proofs.Json.Extent
import CaretQuery.Proofs.Query.Matches
import Mathlib

/-! # What a build makes of its arguments

A build ends in a query or in one of a few failures: the arguments are used
wrongly, an integer in its clauses has too many digits, the filter file is not
UTF-8, the configuration cannot be loaded, or the query cannot be built. The
position of a clause at fault is bounded by the length of a text that clauses
are read from.
-/
namespace CaretQuery

variable {table : OperatorTable} {e : BuildError} {v : Value}

/-! ## Positions -/

theorem index_lt_of_passFrom {step : PassStep} {clauses : List Value}
    (h : passFrom step 0 clauses = .error e) : ∀ i ∈ e.index, i < clauses.length := by
  obtain ⟨i, clause, fault, ⟨hclause, -⟩, rfl⟩ := passFrom_eq_error.1 h
  rintro k ⟨⟩
  rw [Nat.zero_add]
  exact (List.getElem?_eq_some_iff.1 hclause).1

theorem index_lt_of_compileFilter (h : compileFilter table v = .error e) :
    ∀ i ∈ e.index, i < (normalizeClauses v).length := by
  rw [compileFilter_eq_pass] at h
  cases hpass : passFrom (filterStep table (normalizeClauses v).length) 0 (normalizeClauses v) with
  | ok texts =>
    rw [hpass] at h
    cases h
  | error other =>
    rw [hpass] at h
    cases h
    exact index_lt_of_passFrom hpass

theorem index_lt_of_compileSort (h : compileSort v = .error e) :
    ∀ i ∈ e.index, i < (normalizeClauses v).length := by
  rw [compileSort_eq_pass] at h
  exact index_lt_of_passFrom h

/-- A fault blames a clause of the filter, a clause of the sort, or none. -/
theorem index_lt_of_advancedQuery {filter sort : Value}
    (h : advancedQuery table filter sort = .error e) :
    ∀ i ∈ e.index, i < (normalizeClauses filter).length ∨ i < (normalizeClauses sort).length := by
  rw [advancedQuery] at h
  split at h
  next =>
    cases h
    rintro i ⟨⟩
  next =>
    split at h
    next other hfilter =>
      cases h
      exact fun i hi => .inl (index_lt_of_compileFilter hfilter i hi)
    next fragments hfilter =>
      cases hsort : compileSort sort with
      | ok keys =>
        rw [hsort] at h
        cases h
      | error other =>
        rw [hsort] at h
        cases h
        exact fun i hi => .inr (index_lt_of_compileSort hsort i hi)

/-- A value is as many clauses as it has items, unless it is one clause. -/
theorem length_normalizeClauses_le :
    (normalizeClauses v).length ≤ max 1 (v.items?.getD []).length := by
  rw [normalizeClauses.eq_def]
  split
  next => simp
  next => simp [Value.items?]
  next =>
    split
    next hitems => simp
    next hitems => simp
    next first rest hitems => split <;> simp [hitems]

namespace CommandLine

/-! ## Reading clauses -/

theorem length_coerceItems {items read : List Json} (h : coerceItems items = .ok read) :
    read.length = items.length := by
  induction items generalizing read with
  | nil =>
    cases h
    rfl
  | cons item items ih =>
    obtain ⟨first, rest, -, hrest, rfl⟩ := coerceItems_cons_eq_ok.1 h
    rw [List.length_cons, List.length_cons, ih hrest]

theorem length_toValues (items : List Json) : (Json.toValues items).length = items.length := by
  induction items with
  | nil => rfl
  | cons item items ih => rw [Json.toValues, List.length_cons, List.length_cons, ih]

/-- Only arrays are several clauses. -/
theorem length_items_coerceClauses {json clauses : Json} (h : coerceClauses json = .ok clauses) :
    (clauses.toValue.items?.getD []).length = json.itemCount := by
  cases json with
  | null => cases h
  | object members => cases h
  | array items =>
    obtain ⟨read, hread, rfl⟩ := coerceClauses_array_eq_ok.1 h
    exact (length_toValues read).trans (length_coerceItems hread)
  | _ =>
    cases h
    rfl

/-- A position in the clauses of a value is bounded by the length of one of the texts. -/
def IsBounded (texts : List String) (v : Value) : Prop :=
  ∀ i < (normalizeClauses v).length, ∃ text ∈ texts, i ≤ text.length

theorem isBounded_none (texts : List String) : IsBounded texts .none := nofun

/-- Clauses as they are read: they hold texts only, and their positions are bounded. -/
structure AreRead (texts : List String) (v : Value) : Prop where
  bounded : IsBounded texts v
  holdTexts : ClausesHoldTexts v

theorem areRead_none (texts : List String) : AreRead texts .none :=
  ⟨isBounded_none texts, clausesHoldTexts_none⟩

theorem readClauses_eq_ok {option text : String} {clauses : Json} :
    readClauses option text = .ok clauses ↔
      ∃ json, Json.read text = .ok json ∧ coerceClauses json = .ok clauses := by
  rw [readClauses]
  cases Json.read text with
  | error fault => simp
  | ok json => cases hcoerce : coerceClauses json <;> simp [hcoerce, Except.mapError]

theorem clausesHoldTexts_of_readClauses {option text : String} {clauses : Json}
    (h : readClauses option text = .ok clauses) : ClausesHoldTexts clauses.toValue := by
  obtain ⟨json, -, hcoerce⟩ := readClauses_eq_ok.1 h
  exact (holdsTexts_of_coerceClauses hcoerce).clauses

theorem areRead_of_readClauses {texts : List String} {option text : String} {clauses : Json}
    (htext : text ∈ texts) (h : readClauses option text = .ok clauses) :
    AreRead texts clauses.toValue := by
  refine ⟨fun i hi => ?_, clausesHoldTexts_of_readClauses h⟩
  obtain ⟨json, hread, hcoerce⟩ := readClauses_eq_ok.1 h
  have hlength := length_normalizeClauses_le (v := clauses.toValue)
  rw [length_items_coerceClauses hcoerce] at hlength
  have hcount := (Json.isConvertible_and_itemCount_le_of_read hread).2
  exact ⟨text, htext, by omega⟩

namespace BuildArguments

variable {a : BuildArguments} {files : Files} {stdin : List UInt8} {failure : Failure}

/-- The texts that clauses are read from: the filter or the content of the filter file, and the
sort. -/
def clauseTexts (a : BuildArguments) (files : Files) (stdin : List UInt8) : List String :=
  a.filter.toList ++
    (a.filterFile.bind fun file => (readFilterFile files stdin file).toOption).toList ++
    a.sort.toList

/-- The failures to read the arguments of a build. -/
inductive Stops (a : BuildArguments) (files : Files) (stdin : List UInt8) : Failure → Prop
  | usage (message : String) (hint : Option String) : Stops a files stdin (.usage message hint)
  | tooManyDigits {text : String} {count : Nat} (htext : text ∈ a.clauseTexts files stdin)
      (hread : Json.read text = .error (.tooManyDigits count)) :
      Stops a files stdin
        (.unexpected "ValueError" (Json.ReadError.tooManyDigits count).message)
  | undecodable {file : String} {content : List UInt8} {fault : Text.Utf8.Fault}
      (hfile : a.filterFile = some file) (hread : filterContent files stdin file = .ok content)
      (hdecode : Text.Utf8.decode content = .error fault) :
      Stops a files stdin (.unexpected "UnicodeDecodeError" fault.message)

/-- A reading that stops with such a failure, or gives something with a property. -/
def Yields (a : BuildArguments) (files : Files) (stdin : List UInt8) (p : α → Prop) :
    Except Failure α → Prop
  | .error failure => a.Stops files stdin failure
  | .ok read => p read

theorem Yields.bind {α β : Type} {p : α → Prop} {q : β → Prop} {read : Except Failure α}
    {next : α → Except Failure β} (h : a.Yields files stdin p read)
    (hnext : ∀ x, p x → a.Yields files stdin q (next x)) :
    a.Yields files stdin q (read >>= next) := by
  cases read with
  | error failure => exact h
  | ok x => exact hnext x h

theorem Yields.map {α β : Type} {p : α → Prop} {q : β → Prop} {read : Except Failure α} {f : α → β}
    (h : a.Yields files stdin p read) (hf : ∀ x, p x → q (f x)) :
    a.Yields files stdin q (read.map f) := by
  cases read with
  | error failure => exact h
  | ok x => exact hf x h

/-! ## What is read -/

theorem yields_readClauses {option text : String} (htext : text ∈ a.clauseTexts files stdin) :
    a.Yields files stdin (fun clauses => AreRead (a.clauseTexts files stdin) clauses.toValue)
      (readClauses option text) := by
  cases hread : readClauses option text with
  | ok clauses => exact areRead_of_readClauses htext hread
  | error failure =>
    rw [readClauses] at hread
    cases hjson : Json.read text with
    | error fault =>
      rw [hjson] at hread
      obtain rfl := Except.error.inj hread
      cases fault with
      | tooManyDigits count => exact .tooManyDigits htext hjson
      | syntaxError problem line column => exact .usage _ _
    | ok json =>
      rw [hjson] at hread
      cases hcoerce : coerceClauses json with
      | ok clauses => simp [hcoerce, Except.mapError] at hread
      | error fault =>
        obtain rfl : ClauseFault.failure option fault = failure := by
          simpa [hcoerce, Except.mapError] using hread
        cases fault <;> exact .usage _ _

theorem yields_readFilterFile (files : Files) (stdin : List UInt8) {file : String}
    (hfile : a.filterFile = some file) :
    a.Yields files stdin (fun text => text ∈ a.clauseTexts files stdin)
      (readFilterFile files stdin file) := by
  cases hread : readFilterFile files stdin file with
  | ok text =>
    have htext : text ∈ ((a.filterFile.bind fun file =>
        (readFilterFile files stdin file).toOption).toList) := by
      simp [hfile, hread, Except.toOption]
    exact List.mem_append_left _ (List.mem_append_right _ htext)
  | error failure =>
    rw [readFilterFile] at hread
    split at hread
    next =>
      cases hread
      exact .usage _ _
    next content hcontent =>
      split at hread
      next fault hdecode =>
        cases hread
        exact .undecodable hfile hcontent hdecode
      next => cases hread

theorem yields_filterClauses (a : BuildArguments) (files : Files) (stdin : List UInt8) :
    a.Yields files stdin
      (fun filter => AreRead (a.clauseTexts files stdin) (valueOf Json.toValue filter))
      (a.filterClauses files stdin) := by
  rw [filterClauses]
  split
  next => exact .usage _ _
  next text htext hfile =>
    have hmem : text ∈ a.clauseTexts files stdin := by simp [clauseTexts, htext]
    exact (yields_readClauses hmem).map fun clauses hclauses => hclauses
  next file hfilter hfile =>
    have htext := yields_readFilterFile files stdin hfile
    cases hread : readFilterFile files stdin file with
    | error failure =>
      rw [hread] at htext
      exact htext
    | ok text =>
      rw [hread] at htext
      exact (yields_readClauses htext).map fun clauses hclauses => hclauses
  next => exact areRead_none _

theorem yields_sortClauses (a : BuildArguments) (files : Files) (stdin : List UInt8)
    (hasFilter : Bool) :
    a.Yields files stdin
      (fun sort => AreRead (a.clauseTexts files stdin) (valueOf Json.toValue sort))
      (a.sortClauses hasFilter) := by
  rw [sortClauses]
  split
  next text htext =>
    have hmem : text ∈ a.clauseTexts files stdin := by simp [clauseTexts, htext]
    exact (yields_readClauses hmem).map fun clauses hclauses => hclauses
  next =>
    split
    next => exact .usage _ _
    next => exact areRead_none _

theorem yields_readMatches (a : BuildArguments) (files : Files) (stdin : List UInt8)
    (option : String) (raws : List String) :
    a.Yields files stdin (fun _ => True) (readMatches option raws) := by
  have hpairs : a.Yields files stdin (fun _ => True) (raws.mapM (readMatch option)) := by
    induction raws with
    | nil => trivial
    | cons raw raws ih =>
      have hmatch : a.Yields files stdin (fun _ => True) (readMatch option raw) := by
        rw [readMatch]
        split
        · trivial
        · exact .usage _ _
      rw [List.mapM_cons]
      exact hmatch.bind fun pair _ => ih.bind fun pairs _ => trivial
  rw [readMatches]
  split
  · trivial
  · exact hpairs.map fun pairs _ => trivial

/-- Input as it is read from a command line. -/
structure IsRead (texts : List String) (input : QueryInput) : Prop where
  filter : AreRead texts input.filter
  sort : AreRead texts input.sort
  orderBy : ∃ field : Option String, input.orderBy = valueOf .str field
  direction : ∃ d : Option Direction, input.direction = valueOf (fun d => .str d.label) d
  exact : ∃ pairs, input.exact = matchesValue pairs
  contains : ∃ pairs, input.contains = matchesValue pairs

theorem yields_queryInput (a : BuildArguments) (files : Files) (stdin : List UInt8) :
    a.Yields files stdin (IsRead (a.clauseTexts files stdin)) (a.queryInput files stdin) := by
  refine (yields_filterClauses a files stdin).bind fun filter hfilter => ?_
  refine (yields_sortClauses a files stdin filter.isSome).bind fun sort hsort => ?_
  refine (yields_readMatches a files stdin _ a.exact).bind fun exact _ => ?_
  refine (yields_readMatches a files stdin _ a.contains).bind fun contains _ => ?_
  exact ⟨hfilter, hsort, ⟨a.orderBy, rfl⟩, ⟨a.direction, rfl⟩, ⟨exact, rfl⟩, ⟨contains, rfl⟩⟩

end BuildArguments

/-! ## Building -/

open BuildArguments

theorem exists_matchFragments (c : Comparison) (given : Option (List (String × String))) :
    ∃ texts, matchFragments c.operator.token (matchesValue given) = .ok texts := by
  cases given with
  | none => exact ⟨[], rfl⟩
  | some pairs =>
    have hpairs : matchesValue (some pairs) =
        pairList (pairs.map fun pair => (pair.1, .str pair.2)) := by
      simp [matchesValue, pairList]
    have htexts : HaveTexts (pairs.map fun pair => (pair.1, .str pair.2)) :=
      List.forall_mem_map.2 fun pair _ => Value.isWritable_str pair.2
    rw [hpairs]
    exact ⟨_, matchFragments_pairList c htexts⟩

variable {texts : List String} {input : QueryInput}

/-- The name of a direction stands for it in any letter case. -/
theorem coerce_label (d : Direction) : Direction.coerce (.str d.label) = .ok d := by
  have hlower : Text.lowerString (Value.str d.label).text = d.word := by cases d <;> cbv
  rw [Direction.coerce, hlower]
  · cases d <;> rfl
  · rintro other ⟨⟩

/-- Basic options of the command line always make a query. -/
theorem exists_basicQuery (h : IsRead texts input) :
    ∃ text, basicQuery input.toBasic = .ok text := by
  obtain ⟨field, hfield⟩ := h.orderBy
  obtain ⟨direction, hdirection⟩ := h.direction
  obtain ⟨exact, hexact⟩ := h.exact
  obtain ⟨contains, hcontains⟩ := h.contains
  have hcoerce : ∃ d, Direction.coerce input.toBasic.direction = .ok d := by
    cases direction with
    | none =>
      have hnone : input.direction = .none := hdirection
      rw [QueryInput.toBasic, hnone]
      exact ⟨.desc, rfl⟩
    | some d =>
      have hsome : input.direction = .str d.label := hdirection
      have htruthy : (Value.str d.label).isTruthy = true := by cases d <;> decide
      rw [QueryInput.toBasic, hsome]
      simp only [htruthy, if_true]
      exact ⟨d, coerce_label d⟩
  have horder : ∃ s, input.toBasic.orderBy.asText? = some s := by
    rw [QueryInput.toBasic]
    dsimp only
    split
    next htruthy =>
      cases field with
      | none => rw [hfield] at htruthy; cases htruthy
      | some field => exact ⟨field, by rw [hfield]; rfl⟩
    next => exact ⟨_, rfl⟩
  obtain ⟨d, hd⟩ := hcoerce
  obtain ⟨s, hs⟩ := horder
  obtain ⟨exactTexts, hexactTexts⟩ := exists_matchFragments .eq exact
  obtain ⟨containsTexts, hcontainsTexts⟩ := exists_matchFragments .like contains
  have hmatches : basicMatches input.toBasic =
      .ok (String.join (s :: exactTexts ++ containsTexts)) := by
    have hfirst : matchFragments "=" input.toBasic.exact = .ok exactTexts := by
      rw [← hexactTexts, ← hexact]
      rfl
    have hsecond : matchFragments "LIKE" input.toBasic.contains = .ok containsTexts := by
      rw [← hcontainsTexts, ← hcontains]
      rfl
    simp [basicMatches, hfirst, hsecond, hs, bind, Except.bind]
  rw [basicQuery, hd, hmatches]
  exact ⟨_, rfl⟩

/-- Input that is read makes a query, or a fault that blames a clause of the texts or none. -/
theorem buildQuery_cases (h : IsRead texts input) :
    (∃ query, buildQuery input = .ok query) ∨
      ∃ e : BuildError, buildQuery input = .error (.build e) ∧ e.fault ≠ .longInteger ∧
        ∀ i ∈ e.index, ∃ text ∈ texts, i ≤ text.length := by
  rw [buildQuery]
  split
  next =>
    split
    next =>
      split
      next e hquery =>
        refine .inr ⟨e, rfl, ?_, fun i hi => ?_⟩
        · exact ne_longInteger_of_advancedQuery h.filter.holdTexts h.sort.holdTexts hquery
        · rcases index_lt_of_advancedQuery hquery i hi with hi | hi
          · exact h.filter.bounded i hi
          · exact h.sort.bounded i hi
      next text hquery => exact .inl ⟨_, rfl⟩
    next => exact .inr ⟨_, rfl, nofun, nofun⟩
  next =>
    obtain ⟨text, htext⟩ := exists_basicQuery h
    rw [htext]
    exact .inl ⟨_, rfl⟩

/-- How a build ends. -/
inductive BuildArguments.Ends (a : BuildArguments) (path : Path) (stdin : List UInt8)
    (files : Files) : Except Failure Outcome → Prop
  | built (query : Query) : a.Ends path stdin files (.ok { data := queryData query })
  | stopped {failure : Failure} (h : a.Stops files stdin failure) :
      a.Ends path stdin files (.error failure)
  | unloaded {fault : Config.LoadFault} (h : Config.load files path = .error fault) :
      a.Ends path stdin files (.error (.ofLoadFault path fault))
  | refused {e : BuildError} (hfault : e.fault ≠ .longInteger)
      (h : ∀ i ∈ e.index, ∃ text ∈ a.clauseTexts files stdin, i ≤ text.length) :
      a.Ends path stdin files (.error (.ofBuildError e))

section Ends

variable {a : BuildArguments} {path : Path} {stdin : List UInt8} {files : Files}

theorem ends_buildLogged (j : Log.Journal) (h : IsRead (a.clauseTexts files stdin) input) :
    a.Ends path stdin files (buildLogged j input).1 := by
  rw [buildLogged]
  rcases buildQuery_cases h with ⟨query, hquery⟩ | ⟨e, he, hfault, hindex⟩
  · rw [hquery]
    exact .built query
  · rw [he]
    exact .refused hfault hindex

theorem perform_ends (a : BuildArguments) (path : Path) (stdin : List UInt8) (j : Log.Journal) :
    a.Ends path stdin j.files (a.perform ⟨path, none⟩ stdin j).1 := by
  have hread := yields_queryInput a j.files stdin
  rw [BuildArguments.perform]
  cases hinput : a.queryInput j.files stdin with
  | error failure =>
    rw [hinput] at hread
    exact .stopped hread
  | ok input =>
    rw [hinput] at hread
    dsimp only
    split
    next =>
      rw [loadLogged, Config.Cache.load]
      cases hload : Config.load j.files path with
      | error fault => exact .unloaded hload
      | ok loaded =>
        exact ends_buildLogged _ ⟨hread.filter, hread.sort, hread.orderBy, hread.direction,
          hread.exact, hread.contains⟩
    next => exact ends_buildLogged j hread

end Ends

end CommandLine
end CaretQuery
