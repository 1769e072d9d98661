import CaretQuery.Proofs.CommandLine.Independence

/-! # Which clauses and matches are refused

A text gives no clauses just if it cannot be read as JSON or holds null or an
object. Of several matches the first that is none is refused, and it alone is named.
-/
namespace CaretQuery.CommandLine

variable {α : Type} {failure : Failure} {option text raw : String} {raws : List String}

/-! ## Clauses -/

mutual

theorem holdsNoText_of_coerceClauses : ∀ {json : Json} {fault : ClauseFault},
    coerceClauses json = .error fault → HoldsNoText json
  | .null, _, _ => .null
  | .object members, _, _ => .object members
  | .array items, fault, h => by
    cases hitems : coerceItems items with
    | ok read =>
      rw [coerceClauses, hitems] at h
      cases h
    | error other =>
      obtain ⟨item, hitem, hnotext⟩ := exists_holdsNoText_of_coerceItems hitems
      exact .array hitem hnotext

theorem exists_holdsNoText_of_coerceItems : ∀ {items : List Json} {fault : ClauseFault},
    coerceItems items = .error fault → ∃ item ∈ items, HoldsNoText item
  | item :: items, fault, h => by
    cases hitem : coerceClauses item with
    | error other => exact ⟨item, List.mem_cons_self, holdsNoText_of_coerceClauses hitem⟩
    | ok read =>
      cases hitems : coerceItems items with
      | ok others =>
        rw [coerceItems, hitem, hitems] at h
        cases h
      | error other =>
        obtain ⟨later, hlater, hnotext⟩ := exists_holdsNoText_of_coerceItems hitems
        exact ⟨later, List.mem_cons_of_mem item hlater, hnotext⟩

end

theorem isNoClauses_of_readClauses (h : readClauses option text = .error failure) :
    IsNoClauses text := by
  cases hread : Json.read text with
  | error fault => exact .inl ⟨fault, hread⟩
  | ok json =>
    rw [readClauses, hread] at h
    cases hcoerce : coerceClauses json with
    | error fault => exact .inr ⟨json, hread, holdsNoText_of_coerceClauses hcoerce⟩
    | ok read => simp [hcoerce, Except.mapError] at h

theorem exists_readClauses_eq_error (option : String) (h : IsNoClauses text) :
    ∃ failure, readClauses option text = .error failure := by
  cases hread : readClauses option text with
  | error failure => exact ⟨failure, rfl⟩
  | ok clauses => exact absurd hread (readClauses_ne_ok h clauses)

/-- Clauses that have been read are texts and arrays. -/
theorem isNone_toValue_of_readClauses {clauses : Json}
    (h : readClauses option text = .ok clauses) : clauses.toValue.isNone = false := by
  obtain ⟨json, -, hcoerce⟩ := readClauses_eq_ok.1 h
  cases json with
  | null => cases hcoerce
  | object members => cases hcoerce
  | array items =>
    obtain ⟨read, -, rfl⟩ := coerceClauses_array_eq_ok.1 hcoerce
    rfl
  | _ =>
    cases hcoerce
    rfl

/-! ## Matches -/

/-- The first text of a list that is no match. -/
def FirstNoMatch (raws : List String) (raw : String) : Prop :=
  ∃ before after, raws = before ++ raw :: after ∧ IsNoMatch raw ∧ ∀ r ∈ before, ¬IsNoMatch r

/-- There is only one first element with a property. -/
theorem eq_of_first {p : α → Prop} {x y : α} {before before' after after' : List α}
    (h : before ++ x :: after = before' ++ y :: after') (hx : p x) (hy : p y)
    (hbefore : ∀ z ∈ before, ¬p z) (hbefore' : ∀ z ∈ before', ¬p z) : x = y := by
  induction before generalizing before' with
  | nil =>
    cases before' with
    | nil => exact (List.cons.inj h).1
    | cons z before' =>
      obtain rfl : x = z := (List.cons.inj h).1
      exact absurd hx (hbefore' x List.mem_cons_self)
  | cons z before ih =>
    cases before' with
    | nil =>
      obtain rfl : z = y := (List.cons.inj h).1
      exact absurd hy (hbefore z List.mem_cons_self)
    | cons z' before' =>
      exact ih (List.cons.inj h).2 (fun w hw => hbefore w (List.mem_cons_of_mem z hw))
        (fun w hw => hbefore' w (List.mem_cons_of_mem z' hw))

theorem FirstNoMatch.unique {other : String} (h : FirstNoMatch raws raw)
    (h' : FirstNoMatch raws other) : raw = other := by
  obtain ⟨before, after, hraws, hnomatch, hbefore⟩ := h
  obtain ⟨before', after', hraws', hnomatch', hbefore'⟩ := h'
  exact eq_of_first (hraws.symm.trans hraws') hnomatch hnomatch' hbefore hbefore'

def noMatchFailure (option raw : String) : Failure :=
  .usage (option ++ " expects FIELD=VALUE, got " ++ Text.quoted raw)

theorem isNoMatch_of_splitMatch (h : splitMatch raw = none) : IsNoMatch raw := by
  have hsplit := @List.takeWhile_append_dropWhile _ (fun c => c != '=') raw.toList
  have hhead := List.head?_dropWhile_not (fun c => c != '=') raw.toList
  have hbefore : '=' ∉ raw.toList.takeWhile fun c => c != '=' := by
    intro hmem
    simpa using List.mem_takeWhile_imp hmem
  rw [splitMatch] at h
  generalize raw.toList.takeWhile (fun c => c != '=') = before at h hsplit hbefore
  generalize raw.toList.dropWhile (fun c => c != '=') = after at hsplit hhead
  rw [← hsplit, List.drop_left] at h
  cases after with
  | nil => exact .inl (by rwa [← hsplit, List.append_nil])
  | cons c value =>
    obtain rfl : c = '=' := by simpa using hhead
    exact .inr ⟨before, value, hsplit.symm, hbefore, by simpa using h⟩

theorem isNoMatch_of_readMatch (h : readMatch option raw = .error failure) :
    IsNoMatch raw ∧ failure = noMatchFailure option raw := by
  rw [readMatch] at h
  split at h
  next => cases h
  next hsplit => exact ⟨isNoMatch_of_splitMatch hsplit, (Except.error.inj h).symm⟩

theorem readMatch_of_isNoMatch (h : IsNoMatch raw) :
    readMatch option raw = .error (noMatchFailure option raw) := by
  rw [readMatch, splitMatch_eq_none h]
  rfl

theorem firstNoMatch_of_mapM (h : raws.mapM (readMatch option) = .error failure) :
    ∃ raw, FirstNoMatch raws raw ∧ failure = noMatchFailure option raw := by
  induction raws with
  | nil => cases h
  | cons first raws ih =>
    rw [List.mapM_cons] at h
    cases hfirst : readMatch option first with
    | error other =>
      rw [hfirst] at h
      obtain rfl : other = failure := Except.error.inj h
      obtain ⟨hnomatch, hfailure⟩ := isNoMatch_of_readMatch hfirst
      exact ⟨first, ⟨[], raws, rfl, hnomatch, by simp⟩, hfailure⟩
    | ok pair =>
      have hmatch : ¬IsNoMatch first := by
        intro hnomatch
        cases hfirst.symm.trans (readMatch_of_isNoMatch hnomatch)
      rw [hfirst] at h
      cases hrest : raws.mapM (readMatch option) with
      | ok pairs =>
        simp [hrest, bind, Except.bind, pure, Except.pure] at h
      | error other =>
        rw [hrest] at h
        obtain rfl : other = failure := Except.error.inj h
        obtain ⟨raw, ⟨before, after, rfl, hnomatch, hbefore⟩, hfailure⟩ := ih hrest
        exact ⟨raw, ⟨first :: before, after, rfl, hnomatch, by simpa [hmatch] using hbefore⟩,
          hfailure⟩

theorem firstNoMatch_of_readMatches (h : readMatches option raws = .error failure) :
    ∃ raw, FirstNoMatch raws raw ∧ failure = noMatchFailure option raw := by
  rw [readMatches] at h
  split at h
  next => cases h
  next =>
    cases hall : raws.mapM (readMatch option) with
    | ok pairs =>
      rw [hall] at h
      cases h
    | error other =>
      rw [hall] at h
      obtain rfl : other = failure := Except.error.inj h
      exact firstNoMatch_of_mapM hall

theorem isNone_of_readMatches {pairs : Option (List (String × String))}
    (h : readMatches option raws = .ok pairs) : pairs.isNone = raws.isEmpty := by
  rw [readMatches] at h
  split at h
  next hempty =>
    obtain rfl := Except.ok.inj h
    exact hempty.symm
  next hempty =>
    cases hall : raws.mapM (readMatch option) with
    | error other =>
      rw [hall] at h
      cases h
    | ok read =>
      rw [hall] at h
      obtain rfl := Except.ok.inj h
      simpa using hempty

theorem not_firstNoMatch_of_readMatches {pairs : Option (List (String × String))}
    (h : readMatches option raws = .ok pairs) : ¬FirstNoMatch raws raw := by
  rintro ⟨before, after, rfl, hnomatch, -⟩
  exact readMatches_ne_ok (by simp) hnomatch pairs h

end CaretQuery.CommandLine
