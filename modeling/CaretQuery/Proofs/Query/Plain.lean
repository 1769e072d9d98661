import CaretQuery.Proofs.Query.Canonical
import CaretQuery.Proofs.Query.Matches
import Mathlib

/-! # Basic queries are written without loss

A plain basic query orders by a plain name and matches fields whose names are
plain but for capitals; its values are texts without the separator. The first
segment of the query tells the direction and the order, and every later one is a
test by one of two operators. So two plain inputs have the same query only if
they are the same up to the letter case of the matched fields.
-/
namespace CaretQuery

/-! ## Names with capitals -/

/-- The characters of a plain name, and capitals. -/
def isNameChar (c : Char) : Bool := isFieldChar c || c.isUpper

/-- A plain name in any letter case. -/
def IsName (s : String) : Prop := s ≠ "" ∧ ∀ c ∈ s.toList, isNameChar c = true

instance (s : String) : Decidable (IsName s) := inferInstanceAs (Decidable (_ ∧ _))

theorem toNat_lt_of_isNameChar {c : Char} (h : isNameChar c = true) : c.toNat < 128 := by
  have hbound {d : Char} (hd : d.toNat < 128) (hle : c.val ≤ d.val) : c.toNat < 128 :=
    Nat.lt_of_le_of_lt hle hd
  simp only [isNameChar, isFieldChar, Char.isLower, Char.isDigit, Char.isUpper, Bool.or_eq_true,
    Bool.and_eq_true, decide_eq_true_eq, beq_iff_eq] at h
  rcases h with (((hlower | hdigit) | rfl) | rfl) | hupper
  · exact hbound (d := 'z') (by decide) hlower.2
  · exact hbound (d := '9') (by decide) hdigit.2
  · decide
  · decide
  · exact hbound (d := 'Z') (by decide) hupper.2

/-- In lower case the characters of a name are those of a plain one. -/
theorem isFieldChar_toLower {c : Char} (h : isNameChar c = true) :
    isFieldChar c.toLower = true := by
  have hall : ∀ n < 128, isNameChar (Char.ofNat n) = true →
      isFieldChar (Char.ofNat n).toLower = true := by decide +kernel
  have hc := hall c.toNat (toNat_lt_of_isNameChar h)
  rw [Char.ofNat_toNat] at hc
  exact hc h

theorem lowerAfter_of_ascii (before : List Char) {cs : List Char} (h : ∀ c ∈ cs, c.toNat < 128) :
    Text.lowerAfter before cs = cs.map Char.toLower := by
  induction cs generalizing before with
  | nil => rfl
  | cons c cs ih =>
    rw [List.forall_mem_cons] at h
    have hsigma : c ≠ '\u03a3' := by
      rintro rfl
      exact absurd h.1 (by decide)
    have hdotted : c ≠ '\u0130' := by
      rintro rfl
      exact absurd h.1 (by decide)
    rw [Text.lowerAfter, if_neg hsigma, if_neg hdotted, ih _ h.2, Text.lowerChar, if_pos h.1]
    rfl

/-- The lower-case form of a name is a plain name. -/
theorem IsName.isFieldName_lowerString {s : String} (h : IsName s) :
    IsFieldName (Text.lowerString s) := by
  have hlower : (Text.lowerString s).toList = s.toList.map Char.toLower := by
    rw [Text.lowerString, String.toList_ofList]
    exact lowerAfter_of_ascii [] fun c hc => toNat_lt_of_isNameChar (h.2 c hc)
  refine ⟨fun hnil => h.1 ?_, fun c hc => ?_⟩
  · rw [← String.toList_eq_nil_iff, hlower, List.map_eq_nil_iff, String.toList_eq_nil_iff] at hnil
    exact hnil
  · rw [hlower] at hc
    obtain ⟨d, hd, rfl⟩ := List.mem_map.1 hc
    exact isFieldChar_toLower (h.2 d hd)

/-! ## Matches -/

/-- A field with a value that does not hold the separator. -/
structure PlainMatch where
  field : String
  value : String
  isName : IsName field
  separator_notMem : '^' ∉ value.toList

namespace PlainMatch

def pair (m : PlainMatch) : String × Value := (m.field, .str m.value)

theorem haveTexts_map_pair (ms : List PlainMatch) : HaveTexts (ms.map pair) :=
  List.forall_mem_map.2 fun m _ => Value.isWritable_str m.value

/-- The match with its field in lower case. -/
def lowered (m : PlainMatch) : String × String := (Text.lowerString m.field, m.value)

/-- The test that a match stands for, by an operator whose token no other token completes. -/
def test (c : Comparison) (hmem : c.operator ∈ builtinRows) (hstrict : ¬ IsStrict c.operator)
    (m : PlainMatch) : CanonicalTest where
  field := Text.lowerString m.field
  op := c.operator
  value := m.value
  isFieldName := m.isName.isFieldName_lowerString
  op_mem := hmem
  value_eq h := by simp [requiresValue_comparison] at h
  separator_notMem := m.separator_notMem
  value_head h := absurd h hstrict

def exactTest : PlainMatch → CanonicalTest := test .eq (by decide) (by decide)

def containsTest : PlainMatch → CanonicalTest := test .like (by decide) (by decide)

theorem test_inj {c : Comparison} (hmem : c.operator ∈ builtinRows)
    (hstrict : ¬ IsStrict c.operator) {m n : PlainMatch} :
    m.test c hmem hstrict = n.test c hmem hstrict ↔ m.lowered = n.lowered := by
  simp [test, lowered]

theorem map_test_inj {c : Comparison} (hmem : c.operator ∈ builtinRows)
    (hstrict : ¬ IsStrict c.operator) {ms ns : List PlainMatch} :
    ms.map (test c hmem hstrict) = ns.map (test c hmem hstrict) ↔
      ms.map lowered = ns.map lowered := by
  induction ms generalizing ns with
  | nil => cases ns <;> simp
  | cons m ms ih => cases ns <;> simp [test_inj, ih]

end PlainMatch

/-! ## Queries -/

/-- The input of a basic query with a plain name for its order, and a direction given in any way
that stands for one. -/
structure PlainBasic where
  orderBy : String
  given : Value
  direction : Direction
  exact : List PlainMatch
  contains : List PlainMatch
  isFieldName : IsFieldName orderBy
  coerce_eq : Direction.coerce given = .ok direction

namespace PlainBasic

def toInput (b : PlainBasic) : BasicInput where
  orderBy := .str b.orderBy
  direction := b.given
  exact := pairList (b.exact.map PlainMatch.pair)
  contains := pairList (b.contains.map PlainMatch.pair)

def key (b : PlainBasic) : CanonicalKey := ⟨b.orderBy, b.direction, b.isFieldName⟩

/-- The tests that the matches stand for, in the order in which they are written. -/
def tests (b : PlainBasic) : List CanonicalTest :=
  b.exact.map PlainMatch.exactTest ++ b.contains.map PlainMatch.containsTest

def segments (b : PlainBasic) : List (List Char) :=
  b.key.text.toList :: b.tests.map fun t => t.text.toList

/-- A text with others behind it, each with the separator before it. -/
theorem toList_append_join (first : String) (texts : List String) :
    (first ++ String.join (texts.map (separator ++ ·))).toList =
      ['^'].intercalate (first.toList :: texts.map String.toList) := by
  induction texts generalizing first with
  | nil => simp
  | cons text texts ih =>
    rw [List.map_cons, List.map_cons, List.intercalate_cons_cons, ← ih, String.join_cons]
    simp [separator]

theorem matchTexts_eq (b : PlainBasic) :
    matchTexts (b.exact.map PlainMatch.pair) (b.contains.map PlainMatch.pair) =
      b.tests.map CanonicalTest.text := by
  simp only [matchTexts, tests, List.map_append, List.map_map]
  rfl

/-- A plain basic query is its segments with a separator between neighbours. -/
theorem basicQuery_toInput (b : PlainBasic) :
    ∃ query, basicQuery b.toInput = .ok query ∧ query.toList = ['^'].intercalate b.segments := by
  have hquery : basicQuery b.toInput = basicQuery
      (matchInput b.orderBy b.direction (b.exact.map PlainMatch.pair)
        (b.contains.map PlainMatch.pair)) := by
    have hdirection : Direction.coerce b.toInput.direction = .ok b.direction := b.coerce_eq
    rw [basicQuery, hdirection]
    rfl
  have htexts := haveTexts_append.2
    ⟨PlainMatch.haveTexts_map_pair b.exact, PlainMatch.haveTexts_map_pair b.contains⟩
  rw [hquery, basicQuery_pairList _ _ htexts, matchTexts_eq]
  refine ⟨_, rfl, ?_⟩
  rw [toList_append_join, List.map_map]
  rfl

theorem separator_notMem_segments (b : PlainBasic) : ∀ segment ∈ b.segments, '^' ∉ segment := by
  intro segment hsegment
  rcases List.mem_cons.1 hsegment with rfl | htest
  · exact b.key.separator_notMem_text
  · obtain ⟨t, -, rfl⟩ := List.mem_map.1 htest
    exact t.separator_notMem_text

/-- The tests tell which matches are exact. -/
theorem tests_inj {b c : PlainBasic} :
    b.tests = c.tests ↔ b.exact.map PlainMatch.lowered = c.exact.map PlainMatch.lowered ∧
      b.contains.map PlainMatch.lowered = c.contains.map PlainMatch.lowered := by
  have hexact (b : PlainBasic) : b.tests.filter (fun t => t.op == Comparison.eq.operator) =
      b.exact.map PlainMatch.exactTest := by
    rw [tests, List.filter_append, List.filter_eq_self.2, List.filter_eq_nil_iff.2,
      List.append_nil]
    · intro t ht
      obtain ⟨m, -, rfl⟩ := List.mem_map.1 ht
      have hother : (Comparison.like.operator == Comparison.eq.operator) = false := by decide
      exact Bool.eq_false_iff.1 hother
    · intro t ht
      obtain ⟨m, -, rfl⟩ := List.mem_map.1 ht
      exact beq_self_eq_true _
  rw [← PlainMatch.map_test_inj (c := .eq) (by decide) (by decide),
    ← PlainMatch.map_test_inj (c := .like) (by decide) (by decide)]
  constructor
  · intro h
    have hfirst : b.exact.map PlainMatch.exactTest = c.exact.map PlainMatch.exactTest := by
      rw [← hexact, h, hexact]
    rw [tests, tests, hfirst] at h
    exact ⟨hfirst, List.append_cancel_left h⟩
  · rintro ⟨hfirst, hsecond⟩
    exact congrArg₂ _ hfirst hsecond

theorem segments_inj {b c : PlainBasic} :
    b.segments = c.segments ↔ b.key = c.key ∧ b.tests = c.tests := by
  constructor
  · intro h
    obtain ⟨hkey, htests⟩ := List.cons.inj h
    exact ⟨CanonicalKey.text_injective (String.toList_inj.1 hkey),
      (List.map_inj_right fun _ _ htest =>
        CanonicalTest.text_injective (String.toList_inj.1 htest)).1 htests⟩
  · rintro ⟨hkey, htests⟩
    rw [segments, segments, hkey, htests]

/-- Plain basic input can always be written, and two inputs have the same query
exactly if they have the same direction, the same order, and the same exact and
other matches with their fields in lower case. -/
theorem basicQuery_eq_iff (b c : PlainBasic) :
    ∃ query other, basicQuery b.toInput = .ok query ∧ basicQuery c.toInput = .ok other ∧
      (query = other ↔ b.direction = c.direction ∧ b.orderBy = c.orderBy ∧
        b.exact.map PlainMatch.lowered = c.exact.map PlainMatch.lowered ∧
        b.contains.map PlainMatch.lowered = c.contains.map PlainMatch.lowered) := by
  obtain ⟨query, hquery, htext⟩ := b.basicQuery_toInput
  obtain ⟨other, hother, htext'⟩ := c.basicQuery_toInput
  have hkey : b.key = c.key ↔ b.direction = c.direction ∧ b.orderBy = c.orderBy := by
    simp [key, and_comm]
  have hsegments : query = other ↔ b.segments = c.segments := by
    rw [← String.toList_inj, htext, htext']
    refine ⟨fun h => ?_, fun h => by rw [h]⟩
    exact eq_of_intercalate_eq (List.cons_ne_nil _ _) (List.cons_ne_nil _ _)
      b.separator_notMem_segments c.separator_notMem_segments h
  refine ⟨query, other, hquery, hother, ?_⟩
  rw [hsegments, segments_inj, hkey, tests_inj, and_assoc]

end PlainBasic
end CaretQuery
