import CaretQuery.Json.Reader
import CaretQuery.Proofs.Number.Digits
import Mathlib

/-! # What is read from a text

What is left of a text when a value has been read is no longer than the text.
An array takes up at least one character for each of its items, so it has no
more items than its text has characters. An integer has been read from digits
that are few enough for it to be written again.
-/
namespace CaretQuery.Json

mutual

/-- The parts of a value that are no arrays, from left to right. Objects are not looked into. -/
def leaves : Json → List Json
  | .array items => leavesOf items
  | leaf => [leaf]

def leavesOf : List Json → List Json
  | [] => []
  | item :: items => item.leaves ++ leavesOf items

end

/-- The integers among the leaves can be written. -/
def IsConvertible (v : Json) : Prop := ∀ n, .int n ∈ v.leaves → Number.isConvertible n = true

theorem leavesOf_eq_flatMap (items : List Json) : leavesOf items = items.flatMap leaves := by
  induction items with
  | nil => rfl
  | cons item items ih => rw [leavesOf, ih, List.flatMap_cons]

theorem isConvertible_array {items : List Json} :
    (array items).IsConvertible ↔ ∀ item ∈ items, item.IsConvertible := by
  simp only [IsConvertible, leaves, leavesOf_eq_flatMap, List.mem_flatMap]
  exact ⟨fun h item hitem n hn => h n ⟨item, hitem, hn⟩,
    fun h n ⟨item, hitem, hn⟩ => h item hitem n hn⟩

theorem isConvertible_of_leaf {v : Json} (hleaf : v.leaves = [v]) (h : ∀ n, v ≠ .int n) :
    v.IsConvertible := by
  intro n hn
  rw [hleaf, List.mem_singleton] at hn
  exact absurd hn.symm (h n)

/-- A step of the reader gives something with a property, which takes up at least so many of `n`
characters. -/
def Gives (p : α → Prop) (count : α → Nat) (n : Nat) (step : Step α) : Prop :=
  ∀ a rest, step = .ok (a, rest) → p a ∧ count a + rest.length ≤ n

section Steps

variable {α β : Type} {p : α → Prop} {count : α → Nat} {m n : Nat}

theorem gives_error {stop : Stop} : Gives p count n (.error stop) := nofun

theorem gives_ok {a : α} {rest : List Char} (hp : p a) (h : count a + rest.length ≤ n) :
    Gives p count n (.ok (a, rest)) := by
  rintro _ _ ⟨⟩
  exact ⟨hp, h⟩

theorem Gives.mono {step : Step α} (h : Gives p count m step) (hmn : m ≤ n) :
    Gives p count n step :=
  fun a rest heq => ⟨(h a rest heq).1, (h a rest heq).2.trans hmn⟩

/-- What is made of something read takes up as much, and more if more has been read before. -/
theorem Gives.map {k : Nat} {step : Step α} {f : α × List Char → β × List Char}
    {q : β → Prop} {total : β → Nat} (h : Gives p count m step) (hmn : m + k ≤ n)
    (hf : ∀ a rest, p a → q (f (a, rest)).1 ∧
      total (f (a, rest)).1 ≤ count a + k ∧ (f (a, rest)).2 = rest) :
    Gives q total n (step.map f) := by
  cases step with
  | error stop => exact gives_error
  | ok read =>
    rintro b rest heq
    obtain ⟨hp, hread⟩ := h read.1 read.2 rfl
    obtain ⟨hq, hcount, hrest⟩ := hf read.1 read.2 hp
    have hpair : f (read.1, read.2) = (b, rest) := Except.ok.inj heq
    rw [hpair] at hq hcount hrest
    have hlength := congrArg List.length hrest
    dsimp only at hq hcount hlength
    exact ⟨hq, by omega⟩

end Steps

/-! ## Texts and numbers -/

theorem readString_gives (left : Nat) (cs : List Char) :
    Gives (fun _ => True) (fun _ => 0) cs.length (readString left cs) := by
  have hcons {n m : Nat} {c : Char} {step : Step (List Char)}
      (h : Gives (fun _ => True) (fun _ => 0) n step) (hnm : n ≤ m) :
      Gives (fun _ => True) (fun _ => 0) m (consRead c step) :=
    h.map (k := 0) hnm fun _ _ _ => ⟨trivial, Nat.le_refl _, rfl⟩
  fun_induction readString left cs
  case case2 => exact gives_ok trivial (by simp)
  case case6 ih | case7 ih | case8 ih | case10 ih | case13 ih | case15 ih =>
    exact hcons ih (by simp only [List.length_cons]; omega)
  all_goals exact gives_error

theorem length_exponentPart (cs : List Char) :
    ∀ part ∈ exponentPart cs, part.2.2.length ≤ cs.length := by
  fun_cases exponentPart cs
  case case2 e cs he negative digits hsign hne =>
    have hdigits : digits.length ≤ cs.length := by
      split at hsign <;> obtain ⟨-, rfl⟩ := Prod.mk.inj hsign <;> simp
    rintro part ⟨⟩
    exact ((List.dropWhile_sublist isDigit).length_le.trans hdigits).trans (Nat.le_succ _)
  all_goals nofun

/-- Digits spell a number with no more digits. -/
theorem decimalValue_lt {cs : List Char} (h : ∀ c ∈ cs, isDigit c = true) :
    decimalValue cs < 10 ^ cs.length := by
  induction cs using List.reverseRecOn with
  | nil => decide
  | append_singleton cs c ih =>
    obtain ⟨hcs, hc⟩ := List.forall_mem_append.1 h
    have hvalue : decimalValue (cs ++ [c]) = decimalValue cs * 10 + (c.toNat - 48) := by
      simp [decimalValue]
    have hdigit : c.toNat ≤ 57 := by
      have hle : '0' ≤ c ∧ c ≤ '9' := by simpa [isDigit] using hc
      exact hle.2
    have hlt := ih hcs
    rw [hvalue, List.length_append, List.length_singleton, Nat.pow_succ]
    omega

theorem isDigit_of_mem_wholeDigits {cs : List Char} {c : Char} (h : c ∈ wholeDigits cs) :
    isDigit c = true := by
  rw [wholeDigits.eq_def] at h
  split at h
  next =>
    obtain rfl := List.mem_singleton.1 h
    rfl
  next => exact List.mem_takeWhile_imp h

theorem isConvertible_int {cs : List Char} (h : (wholeDigits cs).length ≤ Number.maxDigits)
    (negative : Bool) :
    (int (if negative then -decimalValue (wholeDigits cs) else decimalValue (wholeDigits cs))
      ).IsConvertible := by
  intro n hn
  obtain rfl := Json.int.inj (List.mem_singleton.1 hn)
  have hvalue : decimalValue (wholeDigits cs) < 10 ^ (wholeDigits cs).length :=
    decimalValue_lt fun c hc => isDigit_of_mem_wholeDigits hc
  have hbound := hvalue.trans_le (Nat.pow_le_pow_right (by decide : 0 < 10) h)
  rw [Number.isConvertible_iff]
  cases negative <;> simpa using hbound

/-- The number of items of an array. -/
def itemCount : Json → Nat
  | .array items => items.length
  | _ => 0

theorem readNumber_gives (negative : Bool) (start cs : List Char) :
    Gives IsConvertible itemCount cs.length (readNumber negative start cs) := by
  have hrest (k : Nat) (p : Prop) [Decidable p] :
      (if p then cs.drop k else (cs.drop k).drop ((fractionDigits (cs.drop k)).length + 1)).length ≤
        cs.length := by
    split <;> simp only [List.length_drop] <;> omega
  have hfloat (x : Number.Double) : (float x).IsConvertible := isConvertible_of_leaf rfl nofun
  fun_cases readNumber negative start cs
  case case1 => exact gives_error
  case case2 hpart _ _ =>
    exact gives_ok (hfloat _)
      ((Nat.zero_add _).trans_le ((length_exponentPart _ _ hpart).trans (hrest _ _)))
  case case3 => exact gives_ok (hfloat _) ((Nat.zero_add _).trans_le (hrest _ _))
  case case4 => exact gives_error
  case case5 whole _ _ fraction _ digits _ _ hfraction hcount =>
    have hnone : fraction = [] := by simpa using hfraction
    have hlength : whole.length ≤ Number.maxDigits :=
      (Nat.le_add_right _ fraction.length).trans (Nat.not_lt.1 hcount)
    have hdigits : digits = decimalValue whole :=
      congrArg decimalValue ((congrArg (whole ++ ·) hnone).trans (List.append_nil whole))
    refine gives_ok ?_ ((Nat.zero_add _).trans_le (hrest _ _))
    rw [hdigits]
    exact isConvertible_int hlength negative

theorem readScalar_gives (cs : List Char) :
    Gives IsConvertible itemCount cs.length (readScalar cs) := by
  rw [readScalar.eq_def]
  split
  case h_7 => exact (readNumber_gives _ _ _).mono (by simp)
  case h_8 => exact readNumber_gives _ _ _
  all_goals
    exact gives_ok (isConvertible_of_leaf rfl nofun)
      (by simp only [itemCount, List.length_cons]; omega)

/-! ## Values -/

theorem length_skipSpace (cs : List Char) : (skipSpace cs).length ≤ cs.length :=
  (List.dropWhile_sublist isSpace).length_le

section Nested

variable {fuel : Nat}
  (hvalue : ∀ cs, Gives IsConvertible itemCount cs.length (readValue fuel cs))
  (hitems : ∀ cs, Gives (fun items => ∀ item ∈ items, item.IsConvertible) List.length cs.length
    (readItems fuel cs))
  (hmembers : ∀ cs, Gives (fun _ => True) (fun _ => 0) cs.length (readMembers fuel cs))

include hitems hmembers in
theorem readValue_gives_succ (cs : List Char) :
    Gives IsConvertible itemCount cs.length (readValue (fuel + 1) cs) := by
  have hobject (members : List (String × Json)) : (objectOf members).IsConvertible :=
    isConvertible_of_leaf rfl nofun
  rw [readValue.eq_def]
  split
  case h_1 heq => cases heq
  case h_2 =>
    exact (readString_gives _ _).map (k := 0) (by simp)
      fun _ _ _ => ⟨isConvertible_of_leaf rfl nofun, Nat.le_refl _, rfl⟩
  case h_3 later n rest heq =>
    cases heq
    have hspace := length_skipSpace rest
    split
    next hread =>
      rw [hread, List.length_cons] at hspace
      exact gives_ok (isConvertible_array.2 nofun)
        (by simp only [itemCount, List.length_cons, List.length_nil]; omega)
    next =>
      exact (hitems _).map (k := 0) (by rw [List.length_cons]; omega)
        fun _ _ hread => ⟨isConvertible_array.2 hread, Nat.le_refl _, rfl⟩
  case h_4 later n rest heq =>
    cases heq
    have hspace := length_skipSpace rest
    split
    next hread =>
      rw [hread, List.length_cons] at hspace
      exact gives_ok (hobject []) (by simp only [itemCount, List.length_cons]; omega)
    next =>
      exact (hmembers _).map (k := 0) (by rw [List.length_cons]; omega)
        fun members _ _ => ⟨hobject members, Nat.le_refl _, rfl⟩
  case h_5 => exact readScalar_gives _

include hvalue hitems in
theorem readItems_gives_succ (cs : List Char) :
    Gives (fun items => ∀ item ∈ items, item.IsConvertible) List.length cs.length
      (readItems (fuel + 1) cs) := by
  rw [readItems]
  cases hread : readValue fuel cs with
  | error stop => exact gives_error
  | ok read =>
    obtain ⟨hfirst, hrest⟩ := hvalue cs _ _ hread
    have hspace := length_skipSpace read.2
    dsimp only
    split
    next hclose =>
      rw [hclose, List.length_cons] at hspace
      exact gives_ok (List.forall_mem_singleton.2 hfirst)
        (by simp only [List.length_cons, List.length_nil]; omega)
    next later hcomma =>
      rw [hcomma, List.length_cons] at hspace
      have hlater := length_skipSpace later
      exact (hitems _).map (k := 1) (by omega)
        fun _ _ hothers => ⟨List.forall_mem_cons.2 ⟨hfirst, hothers⟩, Nat.le_refl _, rfl⟩
    next => exact gives_error

include hvalue hmembers in
theorem readMembers_gives_succ (cs : List Char) :
    Gives (fun _ => True) (fun _ => 0) cs.length (readMembers (fuel + 1) cs) := by
  rw [readMembers.eq_def]
  split
  case h_1 heq => cases heq
  case h_2 later n rest heq =>
    cases heq
    cases hread : readString (rest.length + 1) rest with
    | error stop => exact gives_error
    | ok read =>
      obtain ⟨-, hkey⟩ := readString_gives _ _ _ _ hread
      have hspace := length_skipSpace read.2
      dsimp only
      split
      next later hcolon =>
        rw [hcolon, List.length_cons] at hspace
        have hlater := length_skipSpace later
        cases hreadValue : readValue fuel (skipSpace later) with
        | error stop => exact gives_error
        | ok readValue =>
          obtain ⟨-, hrest⟩ := hvalue _ _ _ hreadValue
          have hafter := length_skipSpace readValue.2
          dsimp only
          split
          next hclose =>
            rw [hclose, List.length_cons] at hafter
            exact gives_ok trivial (by rw [List.length_cons]; omega)
          next later hcomma =>
            rw [hcomma, List.length_cons] at hafter
            have hlast := length_skipSpace later
            exact (hmembers _).map (k := 0) (by rw [List.length_cons]; omega)
              fun _ _ _ => ⟨trivial, Nat.le_refl _, rfl⟩
          next => exact gives_error
      next => exact gives_error
  case h_3 => exact gives_error

end Nested

theorem reads_give (fuel : Nat) :
    (∀ cs, Gives IsConvertible itemCount cs.length (readValue fuel cs)) ∧
      (∀ cs, Gives (fun items => ∀ item ∈ items, item.IsConvertible) List.length cs.length
        (readItems fuel cs)) ∧
      ∀ cs, Gives (fun _ => True) (fun _ => 0) cs.length (readMembers fuel cs) := by
  induction fuel with
  | zero => exact ⟨nofun, nofun, nofun⟩
  | succ fuel ih =>
    obtain ⟨hvalue, hitems, hmembers⟩ := ih
    exact ⟨readValue_gives_succ hitems hmembers, readItems_gives_succ hvalue hitems,
      readMembers_gives_succ hvalue hmembers⟩

/-- An array has no more items than its text has characters, and the integers in it can be
written. -/
theorem isConvertible_and_itemCount_le_of_read {text : String} {v : Json} (h : read text = .ok v) :
    v.IsConvertible ∧ v.itemCount ≤ text.length := by
  have hchars : readChars text.toList = .ok v := by
    rw [read] at h
    split at h
    next hread => rw [hread, Except.ok.inj h]
    all_goals cases h
  rw [readChars] at hchars
  split at hchars
  next => cases hchars
  next =>
    split at hchars
    next => cases hchars
    next value rest hread =>
      obtain ⟨hconvertible, hcount⟩ := (reads_give _).1 _ _ _ hread
      have hspace := length_skipSpace text.toList
      rw [String.length_toList] at hspace
      split at hchars
      next =>
        cases hchars
        exact ⟨hconvertible, by omega⟩
      next => cases hchars

end CaretQuery.Json
