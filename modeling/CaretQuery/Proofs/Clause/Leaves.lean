import CaretQuery.Proofs.CommandLine.Refusals
import CaretQuery.Proofs.Json.Extent

/-! # Clauses and the JSON they are read from

A value is refused for its first leaf that has no text, whatever stands behind
it. Otherwise the text of every leaf takes its place and the arrays stay as they
are, so clauses that have been read are read as themselves.
-/
namespace CaretQuery

namespace CommandLine

open Json (leaves leavesOf)

variable {option : String} {v leaf clauses : Json} {items : List Json} {fault : ClauseFault}
  {failure : Failure}

/-- What is said of a leaf that has no text. -/
inductive Refuses (option : String) : Json → Failure → Prop
  | null : Refuses option .null
      (.usage (option ++ " contains null, which is not a valid query value.")
        (some "Use the \"-isempty\" or \"-isnotempty\" operator to match empty fields."))
  | object (members : List (String × Json)) : Refuses option (.object members)
      (.usage (option ++ " contains a JSON object; clauses must be arrays or strings.") none)

/-- The same arrays with the text of every leaf in its place: a text itself, and the format of a
truth value or a number. -/
inductive Formats : Json → Json → Prop
  | str (s : String) : Formats (.str s) (.str s)
  | bool {b : Bool} {text : String} (h : formatValue (.bool b) = .ok text) :
      Formats (.bool b) (.str text)
  | int {n : Int} {text : String} (h : formatValue (.int n) = .ok text) :
      Formats (.int n) (.str text)
  | float {x : Number.Double} {text : String} (h : formatValue (.float x) = .ok text) :
      Formats (.float x) (.str text)
  | array {items texts : List Json} (h : List.Forall₂ Formats items texts) :
      Formats (.array items) (.array texts)

/-- Behind leaves that have texts there is one that has none. Nothing is said of what follows. -/
def FirstRefusal (option : String) (v : Json) (failure : Failure) : Prop :=
  ∃ before leaf, before ++ [leaf] <+: v.leaves ∧ Refuses option leaf failure ∧
    ∀ other ∈ before, ∀ failure, ¬Refuses option other failure

/-! ## Refused leaves -/

def leafFault? : Json → Option ClauseFault
  | .null => some .null
  | .object _ => some .object
  | _ => none

theorem refuses_iff : Refuses option leaf failure ↔
    ∃ fault, leafFault? leaf = some fault ∧ failure = fault.failure option := by
  constructor
  · rintro (_ | _)
    · exact ⟨.null, rfl, rfl⟩
    · exact ⟨.object, rfl, rfl⟩
  · rintro ⟨fault, hfault, rfl⟩
    cases leaf <;> cases hfault
    · exact .null
    · exact .object _

theorem leafFault?_eq_none_iff (option : String) :
    leafFault? leaf = none ↔ ∀ failure, ¬Refuses option leaf failure := by
  simp only [refuses_iff, not_exists, not_and, Option.eq_none_iff_forall_ne_some]
  exact ⟨fun h failure fault hfault => absurd hfault (h fault),
    fun h fault hfault => h _ fault hfault rfl⟩

mutual

/-- A value is refused for the first of its leaves that has a fault. -/
theorem coerceClauses_eq_error_iff : ∀ {v : Json} {fault : ClauseFault},
    coerceClauses v = .error fault ↔ v.leaves.findSome? leafFault? = some fault
  | .null, fault => by simp [coerceClauses, leaves, leafFault?]
  | .object _, fault => by simp [coerceClauses, leaves, leafFault?]
  | .str _, fault => by simp [coerceClauses, leaves, leafFault?]
  | .bool _, fault => by simp [coerceClauses, leaves, leafFault?]
  | .int _, fault => by simp [coerceClauses, leaves, leafFault?]
  | .float _, fault => by simp [coerceClauses, leaves, leafFault?]
  | .array items, fault => by
    rw [coerceClauses, leaves, ← coerceItems_eq_error_iff]
    cases coerceItems items <;> simp [Except.map]

theorem coerceItems_eq_error_iff : ∀ {items : List Json} {fault : ClauseFault},
    coerceItems items = .error fault ↔ (leavesOf items).findSome? leafFault? = some fault
  | [], fault => by simp [coerceItems, leavesOf]
  | item :: items, fault => by
    rw [coerceItems, leavesOf, List.findSome?_append]
    cases hitem : coerceClauses item with
    | error other => simp [coerceClauses_eq_error_iff.1 hitem]
    | ok read =>
      have hnone : item.leaves.findSome? leafFault? = none := by
        rw [Option.eq_none_iff_forall_ne_some]
        intro other hother
        cases hitem.symm.trans (coerceClauses_eq_error_iff.2 hother)
      rw [hnone, Option.none_or, ← coerceItems_eq_error_iff]
      cases coerceItems items <;> simp [Except.map]

end

theorem mapError_coerceClauses_eq_error_iff :
    (coerceClauses v).mapError (ClauseFault.failure option) = .error failure ↔
      FirstRefusal option v failure := by
  have hfault : (coerceClauses v).mapError (ClauseFault.failure option) = .error failure ↔
      ∃ fault, coerceClauses v = .error fault ∧ failure = fault.failure option := by
    cases coerceClauses v <;> simp [Except.mapError, eq_comm]
  simp only [hfault, coerceClauses_eq_error_iff, List.findSome?_eq_some_iff,
    leafFault?_eq_none_iff option]
  constructor
  · rintro ⟨fault, ⟨before, leaf, after, hleaves, hleaf, hbefore⟩, rfl⟩
    exact ⟨before, leaf, ⟨after, by simp [hleaves]⟩, refuses_iff.2 ⟨fault, hleaf, rfl⟩, hbefore⟩
  · rintro ⟨before, leaf, ⟨after, hleaves⟩, hrefuses, hbefore⟩
    obtain ⟨fault, hleaf, rfl⟩ := refuses_iff.1 hrefuses
    exact ⟨fault, ⟨before, leaf, after, by simp [← hleaves], hleaf, hbefore⟩, rfl⟩

/-! ## Texts in the place of leaves -/

mutual

theorem coerceClauses_eq_ok_iff : ∀ {v clauses : Json}, v.IsConvertible →
    (coerceClauses v = .ok clauses ↔ Formats v clauses)
  | .null, clauses, _ => iff_of_false nofun nofun
  | .object _, clauses, _ => iff_of_false nofun nofun
  | .str s, clauses, _ => by
    constructor
    · rintro ⟨⟩
      exact .str s
    · rintro ⟨⟩
      rfl
  | .bool b, clauses, _ => by
    constructor
    · rintro ⟨⟩
      exact .bool rfl
    · intro hformats
      cases hformats with
      | bool h => exact coerceClauses_of_formatValue rfl h
  | .int n, clauses, hints => by
    have hwritable : (Value.int n).isWritable = true := hints n (List.mem_singleton_self _)
    constructor
    · rintro ⟨⟩
      exact .int (by simp [formatValue, hwritable, Value.text, Value.write])
    · intro hformats
      cases hformats with
      | int h => exact coerceClauses_of_formatValue rfl h
  | .float x, clauses, _ => by
    have hwritable : (Value.float x).isWritable = true := rfl
    constructor
    · rintro ⟨⟩
      exact .float (by simp [formatValue, hwritable, Value.text, Value.write])
    · intro hformats
      cases hformats with
      | float h => exact coerceClauses_of_formatValue rfl h
  | .array items, clauses, hints => by
    rw [coerceClauses_array_eq_ok]
    constructor
    · rintro ⟨texts, htexts, rfl⟩
      exact .array ((coerceItems_eq_ok_iff hints).1 htexts)
    · intro hformats
      cases hformats with
      | array htexts => exact ⟨_, (coerceItems_eq_ok_iff hints).2 htexts, rfl⟩

theorem coerceItems_eq_ok_iff : ∀ {items texts : List Json}, (Json.array items).IsConvertible →
    (coerceItems items = .ok texts ↔ List.Forall₂ Formats items texts)
  | [], texts, _ => by
    rw [coerceItems, List.forall₂_nil_left_iff, Except.ok.injEq, eq_comm]
  | item :: items, texts, hints => by
    have hfirst : item.IsConvertible := fun n hn => hints n (List.mem_append_left _ hn)
    have hrest : (Json.array items).IsConvertible :=
      fun n hn => hints n (List.mem_append_right _ hn)
    rw [coerceItems_cons_eq_ok, List.forall₂_cons_left_iff]
    simp only [coerceClauses_eq_ok_iff hfirst, coerceItems_eq_ok_iff hrest]

end

/-! ## Clauses that are read again -/

mutual

theorem leaves_of_coerceClauses : ∀ {v clauses : Json}, coerceClauses v = .ok clauses →
    ∀ leaf ∈ clauses.leaves, ∃ s, leaf = .str s
  | .str s, clauses, h => by
    cases h
    simp [leaves]
  | .bool b, clauses, h => by
    cases h
    simp [leaves]
  | .int n, clauses, h => by
    cases h
    simp [leaves]
  | .float x, clauses, h => by
    cases h
    simp [leaves]
  | .array items, clauses, h => by
    obtain ⟨texts, htexts, rfl⟩ := coerceClauses_array_eq_ok.1 h
    exact leavesOf_of_coerceItems htexts

theorem leavesOf_of_coerceItems : ∀ {items texts : List Json}, coerceItems items = .ok texts →
    ∀ leaf ∈ leavesOf texts, ∃ s, leaf = .str s
  | [], texts, h => by
    cases h
    simp [leavesOf]
  | item :: items, texts, h => by
    obtain ⟨first, rest, hfirst, hrest, rfl⟩ := coerceItems_cons_eq_ok.1 h
    rw [leavesOf, List.forall_mem_append]
    exact ⟨leaves_of_coerceClauses hfirst, leavesOf_of_coerceItems hrest⟩

end

mutual

/-- Texts and arrays are read as themselves. -/
theorem coerceClauses_eq_self : ∀ {v : Json}, (∀ leaf ∈ v.leaves, ∃ s, leaf = .str s) →
    coerceClauses v = .ok v
  | .str s, h => rfl
  | .array items, h => coerceClauses_array_eq_ok.2 ⟨items, coerceItems_eq_self h, rfl⟩
  | .null, h => by simp [leaves] at h
  | .object _, h => by simp [leaves] at h
  | .bool _, h => by simp [leaves] at h
  | .int _, h => by simp [leaves] at h
  | .float _, h => by simp [leaves] at h

theorem coerceItems_eq_self : ∀ {items : List Json},
    (∀ leaf ∈ leavesOf items, ∃ s, leaf = .str s) → coerceItems items = .ok items
  | [], h => rfl
  | item :: items, h => by
    rw [leavesOf, List.forall_mem_append] at h
    exact coerceItems_cons_eq_ok.2
      ⟨item, items, coerceClauses_eq_self h.1, coerceItems_eq_self h.2, rfl⟩

end

/-- A value gives no clauses exactly if it holds null or an object, and then the
first of these is reported, whatever follows it. Otherwise its clauses are the
same arrays with the text of every leaf in its place; so they hold nothing but
texts and arrays, and are read as themselves. Every leaf of a value that is read
from a text has a text. -/
theorem coerceClauses_outcome (option : String) (v : Json) :
    ((∃ failure, (coerceClauses v).mapError (ClauseFault.failure option) = .error failure) ↔
      HoldsNoText v) ∧
    (∀ failure, (coerceClauses v).mapError (ClauseFault.failure option) = .error failure ↔
      FirstRefusal option v failure) ∧
    (v.IsConvertible → ∀ clauses,
      (coerceClauses v).mapError (ClauseFault.failure option) = .ok clauses ↔
        Formats v clauses) ∧
    (∀ clauses, (coerceClauses v).mapError (ClauseFault.failure option) = .ok clauses →
      (∀ leaf ∈ clauses.leaves, ∃ s, leaf = .str s) ∧
        (coerceClauses clauses).mapError (ClauseFault.failure option) = .ok clauses) ∧
    ∀ text, Json.read text = .ok v → v.IsConvertible := by
  have hok (v clauses : Json) : (coerceClauses v).mapError (ClauseFault.failure option) =
      .ok clauses ↔ coerceClauses v = .ok clauses := mapError_eq_ok
  refine ⟨⟨?_, ?_⟩, fun failure => mapError_coerceClauses_eq_error_iff, fun hints clauses => ?_,
    fun clauses hclauses => ?_,
    fun text htext => (Json.isConvertible_and_itemCount_le_of_read htext).1⟩
  · rintro ⟨failure, hfailure⟩
    cases hcoerce : coerceClauses v with
    | ok clauses => simp [hcoerce, Except.mapError] at hfailure
    | error fault => exact holdsNoText_of_coerceClauses hcoerce
  · intro hnotext
    cases hcoerce : coerceClauses v with
    | ok clauses => exact absurd hcoerce (hnotext.coerceClauses_ne_ok clauses)
    | error fault => exact ⟨fault.failure option, rfl⟩
  · rw [hok, coerceClauses_eq_ok_iff hints]
  · rw [hok] at hclauses ⊢
    have htexts := leaves_of_coerceClauses hclauses
    exact ⟨htexts, coerceClauses_eq_self htexts⟩

/-- A truth value and a number two arrays deep, as they are read; the same with an object behind
them and null last. -/
theorem coerceClauses_outcome_nested :
    let v : Json := .array [.array [.str "a", .array [.bool true]], .int 5]
    let clauses : Json := .array [.array [.str "a", .array [.str "true"]], .str "5"]
    Json.read "[[\"a\",[true]],5]" = .ok v ∧ v.IsConvertible ∧ Formats v clauses ∧
      coerceClauses clauses = .ok clauses ∧
      (coerceClauses (.array [.array [.bool true, .object []], .null])).mapError
        (ClauseFault.failure "--filter") = .error (.usage
          "--filter contains a JSON object; clauses must be arrays or strings." none) := by
  intro v clauses
  obtain ⟨-, -, hformats, htexts, hread⟩ := coerceClauses_outcome "--filter" v
  obtain ⟨-, hrefusal, -, -, -⟩ := coerceClauses_outcome "--filter"
    (.array [.array [.bool true, .object []], .null])
  have htext : Json.read "[[\"a\",[true]],5]" = .ok v := by cbv
  have hints := hread _ htext
  refine ⟨htext, hints, (hformats hints clauses).1 rfl, mapError_eq_ok.1 (htexts clauses rfl).2, ?_⟩
  rw [hrefusal]
  refine ⟨[.bool true], .object [], ⟨[.null], rfl⟩, .object [], ?_⟩
  rintro other hother failure hrefuses
  cases List.mem_singleton.1 hother
  cases hrefuses

end CommandLine

end CaretQuery
