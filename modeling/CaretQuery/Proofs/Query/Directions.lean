import CaretQuery.Proofs.Query.Modes

/-! # Directions of basic queries

A value stands for a direction if it is the direction, or if its text is the
word for it in any letter case; any other value is refused with the value, if it
can be written, and else with the error of an integer of too many digits. That is
how a basic query takes its direction. A query built in the mode that its
input calls for takes it in the same way, but only if it is truthy: a value that
is empty, zero or false stands for no direction, and is replaced by the default
without an error.
-/
namespace CaretQuery

variable {v exact contains : Value} {d : Direction} {input : QueryInput}
  {r : Except QueryError Query}

/-! ## Values that stand for directions -/

/-- The value is the direction, or its text is the word for it up to the letter case. -/
inductive Value.StandsFor : Value → Direction → Prop
  | direction (d : Direction) : StandsFor (.direction d) d
  | word {v : Value} {d : Direction} (hv : v.isWritable = true)
      (h : Text.lowerString v.text = d.word) : StandsFor v d

theorem find?_word_eq_some_iff {word : String} :
    ([Direction.asc, .desc].find? fun d => d.word == word) = some d ↔ word = d.word := by
  refine ⟨fun h => ?_, ?_⟩
  · have hword := List.find?_some h
    exact (beq_iff_eq.1 hword).symm
  · rintro rfl
    cases d <;> rfl

/-- A direction is not taken by its text, which is no word for a direction. -/
theorem lowerString_text_direction_ne (d other : Direction) :
    Text.lowerString (Value.direction d).text ≠ other.word := by
  cases d <;> cases other <;> decide

theorem coerce_eq_ok_iff : Direction.coerce v = .ok d ↔ v.StandsFor d := by
  constructor
  · intro h
    cases v with
    | direction other =>
      obtain rfl := Except.ok.inj h
      exact .direction other
    | _ =>
      simp only [Direction.coerce] at h
      split at h
      next hwritable =>
        split at h
        next other hother =>
          obtain rfl := Except.ok.inj h
          exact .word hwritable (find?_word_eq_some_iff.1 hother)
        next => cases h
      next => cases h
  · intro h
    cases h with
    | direction d => rfl
    | word hwritable h =>
      cases v with
      | direction other => exact absurd h (lowerString_text_direction_ne other d)
      | _ => simp only [Direction.coerce, hwritable, if_true, find?_word_eq_some_iff.2 h]

theorem coerce_of_not_standsFor (h : ∀ d, ¬v.StandsFor d) :
    Direction.coerce v = .error ⟨(Fault.invalidDirection v).raised, v, none⟩ := by
  cases hcoerce : Direction.coerce v with
  | error e => rw [coerce_eq_error hcoerce]
  | ok d => exact absurd (coerce_eq_ok_iff.1 hcoerce) (h d)

theorem Value.StandsFor.isWritable (h : v.StandsFor d) : v.isWritable = true := by
  cases h with
  | direction d => rfl
  | word hwritable h => exact hwritable

/-- A value that is absent, empty, zero or false has a text. -/
theorem isWritable_of_not_isTruthy (h : v.isTruthy = false) : v.isWritable = true := by
  cases v with
  | int n =>
    obtain rfl : n = 0 := by simpa [Value.isTruthy] using h
    decide
  | list items =>
    obtain rfl : items = [] := by simpa [Value.isTruthy] using h
    rfl
  | tuple items =>
    obtain rfl : items = [] := by simpa [Value.isTruthy] using h
    rfl
  | dict entries =>
    obtain rfl : entries = [] := by simpa [Value.isTruthy] using h
    rfl
  | clauses items =>
    obtain rfl : items = [] := by simpa [Value.isTruthy] using h
    rfl
  | expr e => cases h
  | _ => rfl

/-- The texts of the values that are absent, empty, zero or false. -/
def falsyTexts : List String :=
  ["None", "False", "0", "0.0", "-0.0", "", "[]", "()", "\x7b\x7d", "b''", "ClauseList(clauses=())"]

theorem text_mem_falsyTexts (h : v.isTruthy = false) : v.text ∈ falsyTexts := by
  cases v with
  | none => decide
  | bool b =>
    obtain rfl : b = false := h
    decide
  | int n =>
    obtain rfl : n = 0 := by simpa [Value.isTruthy] using h
    decide
  | float x =>
    cases x with
    | finite negative significand exponent =>
      obtain rfl : significand = 0 := by simpa [Value.isTruthy, Number.Double.isZero] using h
      cases negative <;> simp [Value.text, Value.write, Number.Double.text,
        Number.Double.magnitudeText, falsyTexts]
    | _ => cases h
  | str s =>
    obtain rfl : s = "" := by simpa [Value.isTruthy] using h
    decide
  | list items =>
    obtain rfl : items = [] := by simpa [Value.isTruthy] using h
    decide
  | tuple items =>
    obtain rfl : items = [] := by simpa [Value.isTruthy] using h
    decide
  | dict entries =>
    obtain rfl : entries = [] := by simpa [Value.isTruthy] using h
    decide
  | bytes bs =>
    obtain rfl : bs = [] := by simpa [Value.isTruthy] using h
    decide
  | clauses items =>
    obtain rfl : items = [] := by simpa [Value.isTruthy] using h
    decide
  | _ => cases h

theorem not_standsFor_of_not_isTruthy (h : v.isTruthy = false) : ¬v.StandsFor d := by
  have hword : ∀ s ∈ falsyTexts, Text.lowerString s ≠ d.word := by cases d <;> decide
  rintro (_ | ⟨-, htext⟩)
  · cases h
  · exact hword _ (text_mem_falsyTexts h) htext

/-! ## Basic queries by their directions -/

/-- The input of basic mode with a direction and matches. -/
def BasicInput.ofDirection (v exact contains : Value) : BasicInput where
  direction := v
  exact := exact
  contains := contains

/-- What comes of a basic query with the default order field. Its direction is judged first, and
then its matches. -/
inductive Directed (v exact contains : Value) : Except QueryError Query → Prop
  | noDirection (hv : v.isWritable = true) (h : ∀ d, ¬v.StandsFor d) :
      Directed v exact contains (.error (.build ⟨.invalidDirection v, v, none⟩))
  | noText (hv : v.isWritable = false) :
      Directed v exact contains (.error (.build ⟨.longInteger, v, none⟩))
  | matchFault {d : Direction} {fault : MatchFault} (h : v.StandsFor d)
      (hmatches : basicMatches { exact := exact, contains := contains } = .error fault) :
      Directed v exact contains (.error (.data fault))
  | query {d : Direction} {rest : String} (h : v.StandsFor d)
      (hmatches : basicMatches { exact := exact, contains := contains } = .ok rest) :
      Directed v exact contains (.ok ⟨.basic, d.token ++ rest⟩)

theorem Directed.build_eq (h : Directed v exact contains r) :
    (QueryRequest.basic (.ofDirection v exact contains)).build = r := by
  have hdirection : (BasicInput.ofDirection v exact contains).direction = v := rfl
  have hsame : basicMatches (.ofDirection v exact contains) =
      basicMatches { exact := exact, contains := contains } := rfl
  rw [QueryRequest.build, basicQuery, hdirection, hsame]
  cases h with
  | noDirection hv h =>
    rw [coerce_of_not_standsFor h, raised_invalidDirection, if_pos hv]
    rfl
  | noText hv =>
    have hnone : ∀ d, ¬v.StandsFor d := fun d hd => by simp [hd.isWritable] at hv
    rw [coerce_of_not_standsFor hnone, raised_invalidDirection, hv]
    rfl
  | matchFault h hmatches =>
    rw [coerce_eq_ok_iff.2 h, hmatches]
    rfl
  | query h hmatches =>
    rw [coerce_eq_ok_iff.2 h, hmatches]
    rfl

theorem exists_directed (v exact contains : Value) : ∃ r, Directed v exact contains r := by
  by_cases hv : ∃ d, v.StandsFor d
  · obtain ⟨d, hd⟩ := hv
    cases hmatches : basicMatches { exact := exact, contains := contains } with
    | error fault => exact ⟨_, .matchFault hd hmatches⟩
    | ok rest => exact ⟨_, .query hd hmatches⟩
  · cases hwritable : v.isWritable with
    | true => exact ⟨_, .noDirection hwritable (not_exists.1 hv)⟩
    | false => exact ⟨_, .noText hwritable⟩

theorem build_basic_eq_iff :
    (QueryRequest.basic (.ofDirection v exact contains)).build = r ↔
      Directed v exact contains r := by
  refine ⟨fun h => ?_, Directed.build_eq⟩
  obtain ⟨other, hother⟩ := exists_directed v exact contains
  obtain rfl : other = r := hother.build_eq.symm.trans h
  exact hother

/-! ## The direction of a query in any mode -/

theorem toBasic_of_isTruthy (horder : input.orderBy = .none)
    (h : input.direction.isTruthy = true) :
    input.toBasic = .ofDirection input.direction input.exact input.contains := by
  rw [QueryInput.toBasic, horder, if_pos h]
  rfl

theorem toBasic_of_not_isTruthy (horder : input.orderBy = .none)
    (h : input.direction.isTruthy = false) :
    input.toBasic = .ofDirection (.direction .desc) input.exact input.contains := by
  have hfalsy : ¬input.direction.isTruthy = true := by simp [h]
  rw [QueryInput.toBasic, horder, if_neg hfalsy]
  rfl

/-- The default stands for a direction, so it is never refused. -/
theorem Directed.ne_of_standsFor (h : Directed v exact contains r) (hv : v.StandsFor d)
    {other : Value} : r ≠ .error (.build ⟨.invalidDirection other, other, none⟩) := by
  rintro rfl
  cases h with
  | noDirection _ h => exact h d hv

/-- Without a filter, a sort and an order field, a query is the basic query of
the direction and the matches exactly if the direction is truthy. A basic query
refuses every value that stands for no direction, and so every falsy one; the
choice of the mode puts the descending direction in the place of the latter. A
value that cannot be written stands for none, and is not told in the error. -/
theorem buildQuery_eq_basic_iff (hfilter : input.filter = .none) (hsort : input.sort = .none)
    (horder : input.orderBy = .none) :
    (∀ d, Direction.coerce input.direction = .ok d ↔ input.direction.StandsFor d) ∧
    (∀ r, (QueryRequest.basic (.ofDirection input.direction input.exact input.contains)).build = r ↔
      Directed input.direction input.exact input.contains r) ∧
    (buildQuery input =
        (QueryRequest.basic (.ofDirection input.direction input.exact input.contains)).build ↔
      input.direction.isTruthy = true) ∧
    (input.direction.isTruthy = false → (∀ d, ¬input.direction.StandsFor d) ∧
      ∀ r, buildQuery input = r ↔ Directed (.direction .desc) input.exact input.contains r) := by
  have hbasic : ¬input.GivesAdvanced := by simp [QueryInput.GivesAdvanced, hfilter, hsort]
  have hdefault (hfalsy : input.direction.isTruthy = false) : ∀ r,
      buildQuery input = r ↔ Directed (.direction .desc) input.exact input.contains r := by
    intro r
    rw [buildQuery_of_basic hbasic, toBasic_of_not_isTruthy horder hfalsy, build_basic_eq_iff]
  refine ⟨fun d => coerce_eq_ok_iff, fun r => build_basic_eq_iff, ⟨fun h => ?_, fun h => ?_⟩,
    fun hfalsy => ⟨fun d => not_standsFor_of_not_isTruthy hfalsy, hdefault hfalsy⟩⟩
  · -- a falsy direction is refused by the basic query and replaced by the other
    by_contra hnot
    have hfalsy := Bool.eq_false_iff.2 hnot
    have hrefused : Directed input.direction input.exact input.contains _ :=
      .noDirection (isWritable_of_not_isTruthy hfalsy) fun d => not_standsFor_of_not_isTruthy hfalsy
    have hdirected := (hdefault hfalsy _).1 (h.trans hrefused.build_eq)
    exact hdirected.ne_of_standsFor (.direction .desc) rfl
  · rw [buildQuery_of_basic hbasic, toBasic_of_isTruthy horder h]

/-- A word that stands for no direction, and one that does. -/
theorem buildQuery_eq_basic_iff_two :
    buildQuery { direction := .str "sideways" } =
      .error (.build ⟨.invalidDirection (.str "sideways"), .str "sideways", none⟩) ∧
    buildQuery { direction := .str "ASC" } = .ok ⟨.basic, "ORDERBYopened_at"⟩ := by
  have hsideways : ∀ d, ¬(Value.str "sideways").StandsFor d := by
    rintro d (_ | ⟨-, h⟩)
    cases d <;> exact absurd h (by decide)
  have hasc : (Value.str "ASC").StandsFor .asc := .word rfl (by decide)
  obtain ⟨-, hrefuses, hsame, -⟩ :=
    @buildQuery_eq_basic_iff { direction := .str "sideways" } rfl rfl rfl
  obtain ⟨-, horders, hsame', -⟩ := @buildQuery_eq_basic_iff { direction := .str "ASC" } rfl rfl rfl
  have hquery : Directed (.str "ASC") .none .none (.ok ⟨.basic, "ORDERBYopened_at"⟩) :=
    @Directed.query _ _ _ .asc "opened_at" hasc rfl
  exact ⟨(hsame.2 rfl).trans ((hrefuses _).2 (.noDirection rfl hsideways)),
    (hsame'.2 rfl).trans ((horders _).2 hquery)⟩

/-- An empty direction is refused by a basic query, but is replaced where the mode is chosen. -/
theorem buildQuery_empty_direction :
    Direction.coerce (.str "") = .error ⟨.invalidDirection (.str ""), .str "", none⟩ ∧
    (QueryRequest.basic (.ofDirection (.str "") .none .none)).build =
      .error (.build ⟨.invalidDirection (.str ""), .str "", none⟩) ∧
    buildQuery { direction := .str "" } = .ok ⟨.basic, "ORDERBYDESCopened_at"⟩ :=
  ⟨rfl, rfl, rfl⟩

end CaretQuery
