import CaretQuery.Query.Sort
import Mathlib.Data.List.Nodup

/-! # Values that name operators, joins and directions

Only a text names something, and it names at most one thing of a kind: the
names of a table are pairwise different, and so are the words for joins and
directions.
-/
namespace CaretQuery

variable {table : OperatorTable}

theorem OperatorTable.find?_eq_some_iff {name : String} {op : Operator} :
    table.find? name = some op ↔ op ∈ table.rows ∧ op.name = name := by
  constructor
  · intro h
    exact ⟨List.mem_of_find?_eq_some h, by simpa using List.find?_some h⟩
  · rintro ⟨hop, rfl⟩
    cases h : table.find? op.name with
    | none =>
      have hne := List.find?_eq_none.1 h op hop
      simp at hne
    | some other =>
      have hother : other ∈ table.rows := List.mem_of_find?_eq_some h
      have hname : other.name = op.name := by simpa using List.find?_some h
      rw [List.inj_on_of_nodup_map table.nodup hother hop hname]

theorem OperatorTable.named?_eq_some_iff {name : Value} {op : Operator} :
    table.named? name = some op ↔ op ∈ table.rows ∧ name.asText? = some op.name := by
  simp only [named?, Option.bind_eq_some_iff, find?_eq_some_iff]
  constructor
  · rintro ⟨text, htext, hop, rfl⟩
    exact ⟨hop, htext⟩
  · rintro ⟨hop, htext⟩
    exact ⟨op.name, htext, hop, rfl⟩

theorem OperatorTable.named?_eq_none_iff {name : Value} :
    table.named? name = none ↔ ∀ op ∈ table.rows, name.asText? ≠ some op.name := by
  rw [Option.eq_none_iff_forall_ne_some]
  constructor
  · intro h op hop htext
    exact h op (named?_eq_some_iff.2 ⟨hop, htext⟩)
  · intro h op hop
    obtain ⟨hmem, htext⟩ := named?_eq_some_iff.1 hop
    exact h op hmem htext

/-- Where words are read as what they spell, a value names what its text spells. -/
theorem bind_asText?_eq_some_iff {α : Type} {ofWord? : String → Option α} {spell : α → String}
    (h : ∀ {text a}, ofWord? text = some a ↔ text = spell a) {word : Value} {a : α} :
    word.asText?.bind ofWord? = some a ↔ word.asText? = some (spell a) := by
  simp only [Option.bind_eq_some_iff, h]
  constructor
  · rintro ⟨text, htext, rfl⟩
    exact htext
  · intro htext
    exact ⟨spell a, htext, rfl⟩

theorem Join.ofWord?_eq_some_iff {word : String} {j : Join} :
    Join.ofWord? word = some j ↔ word = j.word := by
  constructor
  · intro h
    have hword := List.find?_some h
    exact (beq_iff_eq.1 hword).symm
  · rintro rfl
    cases j <;> decide

theorem Join.named?_eq_some_iff {word : Value} {j : Join} :
    Join.named? word = some j ↔ word.asText? = some j.word :=
  bind_asText?_eq_some_iff Join.ofWord?_eq_some_iff

theorem Join.named?_eq_none_iff {word : Value} :
    Join.named? word = none ↔ ∀ j : Join, word.asText? ≠ some j.word := by
  rw [Option.eq_none_iff_forall_ne_some]
  exact forall_congr' fun j => not_congr named?_eq_some_iff

theorem Direction.ofWord?_eq_some_iff {word : String} {d : Direction} :
    Direction.ofWord? word = some d ↔ word = d.word := by
  constructor
  · intro h
    have hword := List.find?_some h
    exact (beq_iff_eq.1 hword).symm
  · rintro rfl
    cases d <;> decide

theorem Direction.named?_eq_some_iff {word : Value} {d : Direction} :
    Direction.named? word = some d ↔ word.asText? = some d.word :=
  bind_asText?_eq_some_iff Direction.ofWord?_eq_some_iff

theorem Direction.named?_eq_none_iff {word : Value} :
    Direction.named? word = none ↔ ∀ d : Direction, word.asText? ≠ some d.word := by
  rw [Option.eq_none_iff_forall_ne_some]
  exact forall_congr' fun d => not_congr named?_eq_some_iff

end CaretQuery
