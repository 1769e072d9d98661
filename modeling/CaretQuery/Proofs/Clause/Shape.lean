import CaretQuery.Proofs.ClausePass
import CaretQuery.Value.Equality
import Mathlib.Data.List.Forall2

/-! # One filter in several forms

Whatever form a filter or a sort is given in, only the items of its clauses
count. So one clause may stand alone, in a list of its own or in an explicit
list, and the containers may be exchanged, as long as the first element still
tells a clause from a list of clauses. Each container is read once, so an
iterator may stand among them.
-/
namespace CaretQuery

/-- Two inputs compile alike, as filters under every table and as sorts: to the
same fragments, or to errors of one kind with one message at one position. -/
structure CompilesLike (v w : Value) : Prop where
  filter (table : OperatorTable) :
    (compileFilter table v).mapError BuildError.notice =
      (compileFilter table w).mapError BuildError.notice
  sort : (compileSort v).mapError BuildError.notice = (compileSort w).mapError BuildError.notice

variable {v w s t : Value} {items clauses others : List Value}

theorem CompilesLike.of_items
    (h : (normalizeClauses v).map clauseItems = (normalizeClauses w).map clauseItems) :
    CompilesLike v w :=
  ⟨fun table => compileFilter_notice_of_items table h, compileSort_notice_of_items h⟩

theorem CompilesLike.of_normalizeClauses (h : normalizeClauses v = normalizeClauses w) :
    CompilesLike v w :=
  .of_items (congrArg (List.map clauseItems) h)

/-! ## Single clauses and lists of clauses -/

theorem normalizeClauses_of_isText (h : s.isText = true) : normalizeClauses s = [s] := by
  cases s with
  | str | direction => rfl
  | _ => cases h

theorem clauseItems_of_isText (h : s.isText = true) : clauseItems s = [s] := by
  cases s with
  | str | direction => rfl
  | _ => cases h

theorem normalizeClauses_singleton (h : v.isText = false) : normalizeClauses (.list [v]) = [v] :=
  normalizeClauses_list (by rintro _ ⟨⟩; exact h)

/-- A list or tuple that starts with a text is taken for one clause. -/
theorem normalizeClauses_of_head_isText {first : Value} {rest : List Value}
    (hfirst : first.isText = true) (ht : t = .list (first :: rest) ∨ t = .tuple (first :: rest)) :
    normalizeClauses t = [.tuple (first :: rest)] := by
  rcases ht with rfl | rfl <;> simp [normalizeClauses, Value.items?, hfirst]

/-- A list of clauses comes back as it is unless it starts with a text. -/
theorem normalizeClauses_list_eq_self_iff :
    normalizeClauses (.list clauses) = clauses ↔ ∀ first ∈ clauses.head?, first.isText = false := by
  constructor
  · intro h first hfirst
    obtain ⟨rest, rfl⟩ := List.head?_eq_some_iff.1 hfirst
    cases htext : first.isText with
    | false => rfl
    | true =>
      rw [normalizeClauses_of_head_isText htext (.inl rfl), List.cons.injEq] at h
      rw [← h.1] at htext
      cases htext
  · exact normalizeClauses_list

/-- A tuple is not even loosely equal to a text. -/
theorem sameItems_normalizeClauses {first : Value} {rest : List Value}
    (hfirst : first.isText = true) :
    sameItems (normalizeClauses (.list (first :: rest))) (first :: rest) = false := by
  rw [normalizeClauses_of_head_isText hfirst (.inl rfl), sameItems, Bool.and_eq_false_iff]
  left
  cases first with
  | str | direction => simp [Value.same, Value.sameScalar, Value.asText?, Value.integer?]
  | _ => cases hfirst

/-- The form of a filter or sort is read as the explicit constructors say it.
What has been normalised may be given as an explicit list; one clause may stand
alone, in a list or in an explicit single clause; one text likewise, or in a
tuple; and a list is kept as it is, and may be given as an explicit list,
exactly if it does not start with a text. -/
theorem compilesLike_explicit :
    (∀ v, CompilesLike v (many (normalizeClauses v))) ∧
    (∀ first rest t, first.isText = true →
      t = .list (first :: rest) ∨ t = .tuple (first :: rest) →
      CompilesLike t (.list [t]) ∧ CompilesLike t (single (first :: rest))) ∧
    (∀ s, s.isText = true →
      CompilesLike s (.list [s]) ∧ CompilesLike s (.tuple [s]) ∧ CompilesLike s (single [s])) ∧
    ∀ clauses,
      (normalizeClauses (.list clauses) = clauses ↔
        ∀ first ∈ clauses.head?, first.isText = false) ∧
      ((∃ first ∈ clauses.head?, first.isText = true) →
        sameItems (normalizeClauses (.list clauses)) clauses = false) ∧
      (normalizeClauses (.list clauses) = clauses →
        CompilesLike (.list clauses) (many clauses)) := by
  refine ⟨fun v => .of_normalizeClauses rfl, ?_, ?_, fun clauses =>
    ⟨normalizeClauses_list_eq_self_iff, ?_, fun h => .of_normalizeClauses h⟩⟩
  · intro first rest t hfirst ht
    have hclause := normalizeClauses_of_head_isText hfirst ht
    have hitems : t.isText = false ∧ clauseItems t = first :: rest := by
      rcases ht with rfl | rfl <;> exact ⟨rfl, rfl⟩
    refine ⟨.of_items ?_, .of_normalizeClauses hclause⟩
    rw [hclause, normalizeClauses_singleton hitems.1, List.map_singleton, List.map_singleton,
      hitems.2]
    rfl
  · intro s hs
    have hclause (t : Value) (ht : t = .list [s] ∨ t = .tuple [s]) : CompilesLike s t := by
      apply CompilesLike.of_items
      rw [normalizeClauses_of_isText hs, normalizeClauses_of_head_isText hs ht,
        List.map_singleton, clauseItems_of_isText hs]
      rfl
    refine ⟨hclause _ (.inl rfl), hclause _ (.inr rfl), .of_items ?_⟩
    rw [normalizeClauses_of_isText hs, List.map_singleton, clauseItems_of_isText hs]
    rfl
  · rintro ⟨first, hfirst, htext⟩
    obtain ⟨rest, rfl⟩ := List.head?_eq_some_iff.1 hfirst
    exact sameItems_normalizeClauses htext

/-- One comparison as a list and a join as a text. -/
theorem compilesLike_explicit_comparison :
    (Value.str "state").isText = true ∧ (Value.str "or").isText = true ∧
      CompilesLike (.list [.str "state", .str "-eq", .int 1])
        (single [.str "state", .str "-eq", .int 1]) ∧
      CompilesLike (.str "or") (.tuple [.str "or"]) := by
  obtain ⟨-, hclause, htext, -⟩ := compilesLike_explicit
  exact ⟨rfl, rfl, (hclause (.str "state") [.str "-eq", .int 1] _ rfl (.inl rfl)).2,
    (htext (.str "or") rfl).2.1⟩

/-! ## Containers -/

/-- A list, a tuple or an iterator of the items. -/
inductive SequenceOf (items : List Value) : Value → Prop
  | list : SequenceOf items (.list items)
  | tuple : SequenceOf items (.tuple items)
  | iterator : SequenceOf items (.iterator items)

/-- A clause that holds the items, in any container. -/
inductive ClauseOf (items : List Value) : Value → Prop
  | sequence {v : Value} (h : SequenceOf items v) : ClauseOf items v
  | clauses : ClauseOf items (.clauses items)

/-- A clause in place of another: a list in a new container, or a text in a container of its
own. -/
inductive Repacked : Value → Value → Prop
  | same (clause : Value) : Repacked clause clause
  | items {items : List Value} {v : Value} (h : ClauseOf items v) : Repacked (.list items) v
  | text {s v : Value} (hs : s.isText = true) (h : ClauseOf [s] v) : Repacked s v

/-- An input in place of a list: the list in a new container, and its elements too if they are
clauses. -/
inductive RepackedInput : Value → Value → Prop
  | outer {items : List Value} {v : Value} (h : SequenceOf items v) : RepackedInput (.list items) v
  | clauses {clauses others : List Value} {v : Value}
      (hfirst : ∀ first ∈ clauses.head?, first.isText = false)
      (hothers : List.Forall₂ Repacked clauses others) (h : SequenceOf others v) :
      RepackedInput (.list clauses) v

theorem SequenceOf.normalizeClauses_eq (h : SequenceOf items v) :
    normalizeClauses v = normalizeClauses (.list items) := by
  cases h <;> cases items <;> rfl

theorem ClauseOf.clauseItems_eq (h : ClauseOf items v) : clauseItems v = items := by
  rcases h with (_ | _ | _) | _ <;> rfl

theorem ClauseOf.isText_eq_false (h : ClauseOf items v) : v.isText = false := by
  rcases h with (_ | _ | _) | _ <;> rfl

theorem Repacked.clauseItems_eq (h : Repacked v w) : clauseItems w = clauseItems v := by
  cases h with
  | same => rfl
  | items h => exact h.clauseItems_eq
  | text hs h => rw [h.clauseItems_eq, clauseItems_of_isText hs]

theorem Repacked.isText_eq_false (h : Repacked v w) (hv : v.isText = false) :
    w.isText = false := by
  cases h with
  | same => exact hv
  | items h => exact h.isText_eq_false
  | text hs h => exact h.isText_eq_false

theorem map_clauseItems_of_repacked (h : List.Forall₂ Repacked clauses others) :
    clauses.map clauseItems = others.map clauseItems := by
  induction h with
  | nil => rfl
  | cons hclause _ ih => rw [List.map_cons, List.map_cons, hclause.clauseItems_eq, ih]

/-- Containers never matter: an input that is packed in another way compiles alike. -/
theorem RepackedInput.compilesLike (h : RepackedInput v w) : CompilesLike v w := by
  cases h with
  | outer h => exact .of_normalizeClauses h.normalizeClauses_eq.symm
  | @clauses clauses others _ hfirst hothers h =>
    have hothersFirst : ∀ first ∈ others.head?, first.isText = false := by
      cases hothers with
      | nil => nofun
      | cons hclause _ =>
        rintro _ ⟨⟩
        exact hclause.isText_eq_false (hfirst _ rfl)
    apply CompilesLike.of_items
    rw [h.normalizeClauses_eq, normalizeClauses_list hfirst, normalizeClauses_list hothersFirst]
    exact map_clauseItems_of_repacked hothers

/-- All containers at once, around a clause that fails. -/
theorem RepackedInput.compilesLike_mixed :
    let packed : Value := .iterator [.clauses [.str "state", .str "-eq", .int 1],
      .list [.str "or"], .iterator [], .tuple [.str "a"], .tuple [.str "active", .str "-isempty"]]
    RepackedInput (.list [.list [.str "state", .str "-eq", .int 1], .str "or", .list [],
        .tuple [.str "a"], .list [.str "active", .str "-isempty"]]) packed ∧
      (compileFilter .builtin packed).mapError BuildError.notice =
        .error ("UnsupportedJoinError", (Fault.unsupportedJoin (.str "a")).message, some 3) := by
  intro packed
  have hcomparison : Repacked (.list [.str "state", .str "-eq", .int 1]) _ := .items .clauses
  have hjoin : Repacked (.str "or") _ := .text rfl (.sequence .list)
  have hempty : Repacked (.list []) _ := .items (.sequence .iterator)
  have htest : Repacked (.list [.str "active", .str "-isempty"]) _ := .items (.sequence .tuple)
  have h := RepackedInput.clauses (by rintro _ ⟨⟩; rfl)
    (.cons hcomparison (.cons hjoin (.cons hempty (.cons (.same (.tuple [.str "a"]))
      (.cons htest .nil))))) .iterator
  exact ⟨h, ((RepackedInput.compilesLike h).filter .builtin).symm⟩

end CaretQuery
