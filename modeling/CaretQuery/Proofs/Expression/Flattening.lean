import CaretQuery.Proofs.Expression.Section

/-! # Expressions are read in order

An expression may be put together in any nesting, by joining two parts or by
combining several at once. Its clauses only keep the tests from left to right
and the joins between them, so constructions that agree in these give the same
clauses and texts.
-/
namespace CaretQuery

theorem bind_eq_ok {ε α β : Type} {x : Except ε α} {f : α → Except ε β} {b : β} :
    x >>= f = .ok b ↔ ∃ a, x = .ok a ∧ f a = .ok b := by
  cases x with
  | error e => simp [bind, Except.bind]
  | ok a => simp [bind, Except.bind]

/-- A test of a field, with values that are still to be formatted. -/
inductive Leaf where
  | comparing (field : Value) (comparison : Comparison) (value : Value)
  | isOneOf (field values : Value)
  | isNoneOf (field values : Value)
  | liesBetween (field low high : Value)
  | testing (field : Value) (test : FieldTest)

namespace Leaf

def field : Leaf → Value
  | .comparing field _ _ | .isOneOf field _ | .isNoneOf field _ | .liesBetween field _ _
  | .testing field _ => field

def build : Leaf → Except FormatFault Expr
  | .comparing field c value => Expr.comparing field c value
  | .isOneOf field values => Expr.isOneOf field values
  | .isNoneOf field values => Expr.isNoneOf field values
  | .liesBetween field low high => Expr.liesBetween field low high
  | .testing field t => .ok (.test field t)

/-- The field, the name of the operator and the formatted value, if the operator takes one. -/
def clause : Leaf → Except FormatFault Value
  | .comparing field c value =>
    (formatValue value).map fun text => .tuple [field, .str c.operator.name, .str text]
  | .isOneOf field values =>
    (formatValues "in_list" values).map fun text => .tuple [field, .str "-in", .str text]
  | .isNoneOf field values =>
    (formatValues "not_in" values).map fun text => .tuple [field, .str "-notin", .str text]
  | .liesBetween field low high =>
    match formatValue low, formatValue high with
    | .ok low, .ok high => .ok (.tuple [field, .str "-between", .str (low ++ "@" ++ high)])
    | .error fault, _ => .error fault
    | .ok _, .error fault => .error fault
  | .testing field t => .ok (.tuple [field, .str t.operator.name])

theorem build_map_clauses (leaf : Leaf) :
    leaf.build.map Expr.clauses = leaf.clause.map ([·]) := by
  cases leaf with
  | comparing field c value =>
    rw [build, clause, Expr.comparing]
    cases formatValue value <;> rfl
  | isOneOf field values =>
    rw [build, clause, Expr.isOneOf]
    cases formatValues "in_list" values <;> rfl
  | isNoneOf field values =>
    rw [build, clause, Expr.isNoneOf]
    cases formatValues "not_in" values <;> rfl
  | liesBetween field low high =>
    rw [build, clause, Expr.liesBetween]
    cases formatValue low <;> cases formatValue high <;> rfl
  | testing field t => rfl

theorem exists_build_iff {leaf : Leaf} :
    (∃ e, leaf.build = .ok e) ↔ ∃ clause, leaf.clause = .ok clause := by
  have h := leaf.build_map_clauses
  cases hbuild : leaf.build <;> cases hclause : leaf.clause <;>
    simp_all [Except.map]

theorem clauses_of_build {leaf : Leaf} {e : Expr} (h : leaf.build = .ok e) :
    ∃ clause, leaf.clause = .ok clause ∧ e.clauses = [clause] := by
  have hclauses := leaf.build_map_clauses
  rw [h] at hclauses
  cases hclause : leaf.clause with
  | error fault => simp [hclause, Except.map] at hclauses
  | ok clause =>
    rw [hclause] at hclauses
    exact ⟨clause, rfl, Except.ok.inj hclauses⟩

theorem showsField_of_clause {leaf : Leaf} {clause : Value} (h : leaf.clause = .ok clause) :
    Expr.showsField clause = leaf.field.isWritable := by
  have htuple : ∃ items, clause = .tuple (leaf.field :: items) := by
    cases leaf with
    | comparing field c value =>
      cases hvalue : formatValue value <;> simp [Leaf.clause, hvalue, Except.map] at h
      exact ⟨_, h.symm⟩
    | isOneOf field values =>
      cases hvalues : formatValues "in_list" values <;> simp [Leaf.clause, hvalues, Except.map] at h
      exact ⟨_, h.symm⟩
    | isNoneOf field values =>
      cases hvalues : formatValues "not_in" values <;> simp [Leaf.clause, hvalues, Except.map] at h
      exact ⟨_, h.symm⟩
    | liesBetween field low high =>
      cases hlow : formatValue low <;> cases hhigh : formatValue high <;>
        simp [Leaf.clause, hlow, hhigh] at h
      exact ⟨_, h.symm⟩
    | testing field t =>
      simp [Leaf.clause] at h
      exact ⟨_, h.symm⟩
  obtain ⟨items, rfl⟩ := htuple
  simp [Expr.showsField, clauseItems, Value.items?]

end Leaf

/-- How an expression is put together. -/
inductive Construction where
  | leaf (test : Leaf)
  | join (left : Construction) (join : Join) (right : Construction)
  | all (parts : List Construction)
  | any (parts : List Construction)

namespace Construction

mutual

def build : Construction → Except FormatFault Expr
  | .leaf test => test.build
  | .join left j right => do
    let left ← left.build
    let right ← right.build
    .ok (.join left j right)
  | .all parts => do Expr.all (← buildEach parts)
  | .any parts => do Expr.any (← buildEach parts)

def buildEach : List Construction → Except FormatFault (List Expr)
  | [] => .ok []
  | part :: parts => do
    let first ← part.build
    let rest ← buildEach parts
    .ok (first :: rest)

end

mutual

/-- The tests from left to right. -/
def leaves : Construction → List Leaf
  | .leaf test => [test]
  | .join left _ right => left.leaves ++ right.leaves
  | .all parts => leavesOfEach parts
  | .any parts => leavesOfEach parts

def leavesOfEach : List Construction → List Leaf
  | [] => []
  | part :: parts => part.leaves ++ leavesOfEach parts

end

mutual

/-- The joins from left to right; a combination has its own join between its parts. -/
def joins : Construction → List Join
  | .leaf _ => []
  | .join left j right => left.joins ++ j :: right.joins
  | .all parts => joinsBetween .and parts
  | .any parts => joinsBetween .or parts

def joinsBetween (j : Join) : List Construction → List Join
  | [] => []
  | part :: parts => part.joins ++ joinsBefore j parts

def joinsBefore (j : Join) : List Construction → List Join
  | [] => []
  | part :: parts => j :: part.joins ++ joinsBefore j parts

end

mutual

/-- No combination is empty. -/
def IsComplete : Construction → Prop
  | .leaf _ => True
  | .join left _ right => left.IsComplete ∧ right.IsComplete
  | .all parts => parts ≠ [] ∧ AreComplete parts
  | .any parts => parts ≠ [] ∧ AreComplete parts

def AreComplete : List Construction → Prop
  | [] => True
  | part :: parts => part.IsComplete ∧ AreComplete parts

end

theorem buildEach_cons_eq_ok {part : Construction} {parts : List Construction} {es : List Expr} :
    buildEach (part :: parts) = .ok es ↔
      ∃ first, part.build = .ok first ∧
        ∃ rest, buildEach parts = .ok rest ∧ first :: rest = es := by
  simp only [buildEach, bind_eq_ok, Except.ok.injEq]

/-- Parts are combined unless there are none. -/
theorem exists_combine_iff {parts : List Construction} {j : Join} {method : String} :
    (∃ e, (buildEach parts >>= Expr.joinAll j method) = .ok e) ↔
      parts ≠ [] ∧ ∃ es, buildEach parts = .ok es := by
  cases parts with
  | nil => simp [bind_eq_ok, buildEach, Expr.joinAll]
  | cons part parts =>
    simp only [bind_eq_ok, buildEach_cons_eq_ok, ne_eq, reduceCtorEq, not_false_eq_true, true_and]
    constructor
    · rintro ⟨e, es, hes, -⟩
      exact ⟨es, hes⟩
    · rintro ⟨es, first, hfirst, rest, hrest, rfl⟩
      exact ⟨_, _, ⟨first, hfirst, rest, hrest, rfl⟩, rfl⟩

mutual

theorem exists_build_iff (t : Construction) :
    (∃ e, t.build = .ok e) ↔
      (∀ leaf ∈ t.leaves, ∃ clause, leaf.clause = .ok clause) ∧ t.IsComplete := by
  match t with
  | .leaf test => simp [build, leaves, IsComplete, Leaf.exists_build_iff]
  | .join left j right =>
    have hleft := exists_build_iff left
    have hright := exists_build_iff right
    simp only [build, leaves, IsComplete, bind_eq_ok, List.forall_mem_append]
    constructor
    · rintro ⟨e, l, hl, r, hr, -⟩
      obtain ⟨hleaves, hcomplete⟩ := hleft.1 ⟨l, hl⟩
      obtain ⟨hleaves', hcomplete'⟩ := hright.1 ⟨r, hr⟩
      exact ⟨⟨hleaves, hleaves'⟩, hcomplete, hcomplete'⟩
    · rintro ⟨⟨hleaves, hleaves'⟩, hcomplete, hcomplete'⟩
      obtain ⟨l, hl⟩ := hleft.2 ⟨hleaves, hcomplete⟩
      obtain ⟨r, hr⟩ := hright.2 ⟨hleaves', hcomplete'⟩
      exact ⟨.join l j r, l, hl, r, hr, rfl⟩
  | .all parts =>
    have hparts := exists_buildEach_iff parts
    rw [build, leaves, IsComplete, and_left_comm, ← hparts]
    exact exists_combine_iff
  | .any parts =>
    have hparts := exists_buildEach_iff parts
    rw [build, leaves, IsComplete, and_left_comm, ← hparts]
    exact exists_combine_iff

theorem exists_buildEach_iff (parts : List Construction) :
    (∃ es, buildEach parts = .ok es) ↔
      (∀ leaf ∈ leavesOfEach parts, ∃ clause, leaf.clause = .ok clause) ∧ AreComplete parts := by
  match parts with
  | [] => simp [buildEach, leavesOfEach, AreComplete]
  | part :: parts =>
    have hfirst := exists_build_iff part
    have hrest := exists_buildEach_iff parts
    simp only [buildEach_cons_eq_ok, leavesOfEach, AreComplete, List.forall_mem_append]
    constructor
    · rintro ⟨es, first, hpart, rest, hparts, -⟩
      obtain ⟨hleaves, hcomplete⟩ := hfirst.1 ⟨first, hpart⟩
      obtain ⟨hleaves', hcomplete'⟩ := hrest.1 ⟨rest, hparts⟩
      exact ⟨⟨hleaves, hleaves'⟩, hcomplete, hcomplete'⟩
    · rintro ⟨⟨hleaves, hleaves'⟩, hcomplete, hcomplete'⟩
      obtain ⟨first, hpart⟩ := hfirst.2 ⟨hleaves, hcomplete⟩
      obtain ⟨rest, hparts⟩ := hrest.2 ⟨hleaves', hcomplete'⟩
      exact ⟨first :: rest, first, hpart, rest, hparts, rfl⟩

end

end Construction

/-! ## Clauses in order -/

/-- Clauses with a one-item join between neighbours. -/
def alternate : List Value → List Join → List Value
  | clause :: clauses, j :: joins => clause :: .tuple [.str j.word] :: alternate clauses joins
  | clauses, _ => clauses

theorem alternate_append (cs ds : List Value) (js ks : List Join) (j : Join)
    (h : cs.length = js.length + 1) :
    alternate (cs ++ ds) (js ++ j :: ks) =
      alternate cs js ++ .tuple [.str j.word] :: alternate ds ks := by
  induction js generalizing cs with
  | nil =>
    obtain ⟨c, rfl⟩ := List.length_eq_one_iff.1 h
    rfl
  | cons i js ih =>
    cases cs with
    | nil => simp at h
    | cons c cs =>
      have hlength : cs.length = js.length + 1 := by simpa using h
      simp only [List.cons_append, alternate, ih cs hlength]

theorem alternate_length (cs : List Value) (js : List Join) (h : cs.length = js.length + 1) :
    (alternate cs js).length = cs.length + js.length := by
  induction js generalizing cs with
  | nil => simp [alternate]
  | cons j js ih =>
    cases cs with
    | nil => simp at h
    | cons c cs =>
      have hlength : cs.length = js.length + 1 := by simpa using h
      simp only [alternate, List.length_cons, ih cs hlength]
      omega

theorem alternate_even (cs : List Value) (js : List Join) (h : cs.length = js.length + 1)
    (i : Nat) : (alternate cs js)[2 * i]? = cs[i]? := by
  induction js generalizing cs i with
  | nil =>
    obtain ⟨c, rfl⟩ := List.length_eq_one_iff.1 h
    cases i <;> simp [alternate]
  | cons j js ih =>
    cases cs with
    | nil => simp at h
    | cons c cs =>
      have hlength : cs.length = js.length + 1 := by simpa using h
      cases i with
      | zero => rfl
      | succ i =>
        simpa only [alternate, Nat.mul_succ, List.getElem?_cons_succ] using ih cs hlength i

theorem alternate_odd (cs : List Value) (js : List Join) (h : cs.length = js.length + 1) (i : Nat) :
    (alternate cs js)[2 * i + 1]? = js[i]?.map fun j => .tuple [.str j.word] := by
  induction js generalizing cs i with
  | nil =>
    obtain ⟨c, rfl⟩ := List.length_eq_one_iff.1 h
    simp [alternate]
  | cons j js ih =>
    cases cs with
    | nil => simp at h
    | cons c cs =>
      have hlength : cs.length = js.length + 1 := by simpa using h
      cases i with
      | zero => rfl
      | succ i =>
        simpa only [alternate, Nat.mul_succ, List.getElem?_cons_succ] using ih cs hlength i

theorem all_alternate (cs : List Value) (js : List Join) (h : cs.length = js.length + 1) :
    (alternate cs js).all Expr.showsField = cs.all Expr.showsField := by
  induction js generalizing cs with
  | nil =>
    obtain ⟨c, rfl⟩ := List.length_eq_one_iff.1 h
    rfl
  | cons j js ih =>
    cases cs with
    | nil => simp at h
    | cons c cs =>
      have hlength : cs.length = js.length + 1 := by simpa using h
      have hjoin : Expr.showsField (.tuple [.str j.word]) = true := by
        simp [Expr.showsField, clauseItems, Value.items?]
      simp only [alternate, List.all_cons, hjoin, Bool.true_and, ih cs hlength]

/-- The clauses of an expression are the given ones, with the given joins between neighbours. -/
structure Expr.Reads (e : Expr) (clauses : List Value) (joins : List Join) : Prop where
  length_eq : clauses.length = joins.length + 1
  clauses_eq : e.clauses = alternate clauses joins

theorem Expr.Reads.join {left right : Expr} {cs ds : List Value} {js ks : List Join} (j : Join)
    (hleft : left.Reads cs js) (hright : right.Reads ds ks) :
    (Expr.join left j right).Reads (cs ++ ds) (js ++ j :: ks) where
  length_eq := by
    simp only [List.length_append, List.length_cons, hleft.length_eq, hright.length_eq]
    omega
  clauses_eq := by
    rw [Expr.clauses, hleft.clauses_eq, hright.clauses_eq,
      alternate_append _ _ _ _ _ hleft.length_eq]

namespace Construction

mutual

/-- A built expression reads as its construction does. -/
theorem reads_of_build (t : Construction) (e : Expr) (h : t.build = .ok e) :
    ∃ cs, t.leaves.map Leaf.clause = cs.map .ok ∧ e.Reads cs t.joins := by
  match t with
  | .leaf test =>
    obtain ⟨clause, hclause, hclauses⟩ := Leaf.clauses_of_build h
    exact ⟨[clause], by simp [leaves, hclause], rfl, hclauses⟩
  | .join left j right =>
    simp only [build, bind_eq_ok] at h
    obtain ⟨l, hl, r, hr, he⟩ := h
    obtain ⟨cs, hcs, hleft⟩ := reads_of_build left l hl
    obtain ⟨ds, hds, hright⟩ := reads_of_build right r hr
    obtain rfl := Except.ok.inj he
    exact ⟨cs ++ ds, by simp [leaves, hcs, hds], hleft.join j hright⟩
  | .all parts =>
    simp only [build, bind_eq_ok] at h
    obtain ⟨es, hes, he⟩ := h
    exact reads_of_combine parts .and "and_" es hes e he
  | .any parts =>
    simp only [build, bind_eq_ok] at h
    obtain ⟨es, hes, he⟩ := h
    exact reads_of_combine parts .or "or_" es hes e he

theorem reads_of_combine (parts : List Construction) (j : Join) (method : String) (es : List Expr)
    (hes : buildEach parts = .ok es) (e : Expr) (he : Expr.joinAll j method es = .ok e) :
    ∃ cs, (leavesOfEach parts).map Leaf.clause = cs.map .ok ∧
      e.Reads cs (joinsBetween j parts) := by
  match parts with
  | [] =>
    obtain rfl := Except.ok.inj hes
    simp [Expr.joinAll] at he
  | part :: parts =>
    obtain ⟨first, hfirst, rest, hrest, rfl⟩ := buildEach_cons_eq_ok.1 hes
    obtain ⟨cs, hcs, hpart⟩ := reads_of_build part first hfirst
    obtain ⟨ds, hds, hreads⟩ := reads_of_foldl parts j rest hrest first cs part.joins hpart
    obtain rfl := Except.ok.inj he
    exact ⟨cs ++ ds, by simp [leavesOfEach, hcs, hds], hreads⟩

/-- Parts that are joined one after another to what is read already. -/
theorem reads_of_foldl (parts : List Construction) (j : Join) (es : List Expr)
    (hes : buildEach parts = .ok es) (left : Expr) (cs : List Value) (js : List Join)
    (hleft : left.Reads cs js) :
    ∃ ds, (leavesOfEach parts).map Leaf.clause = ds.map .ok ∧
      (es.foldl (fun left right => .join left j right) left).Reads (cs ++ ds)
        (js ++ joinsBefore j parts) := by
  match parts with
  | [] =>
    obtain rfl := Except.ok.inj hes
    exact ⟨[], rfl, by simpa [joinsBefore] using hleft⟩
  | part :: parts =>
    obtain ⟨first, hfirst, rest, hrest, rfl⟩ := buildEach_cons_eq_ok.1 hes
    obtain ⟨ds, hds, hpart⟩ := reads_of_build part first hfirst
    have hjoin := hleft.join j hpart
    obtain ⟨fs, hfs, hreads⟩ := reads_of_foldl parts j rest hrest _ _ _ hjoin
    refine ⟨ds ++ fs, by simp [leavesOfEach, hds, hfs], ?_⟩
    simpa [joinsBefore, List.append_assoc] using hreads

end

/-- An expression can be written if the fields of its tests can. -/
theorem isWritable_iff_of_reads {t : Construction} {e : Expr} {cs : List Value}
    (hcs : t.leaves.map Leaf.clause = cs.map .ok) (hreads : e.Reads cs t.joins) :
    e.isWritable = true ↔ ∀ leaf ∈ t.leaves, leaf.field.isWritable = true := by
  have hfields : cs.map Expr.showsField = t.leaves.map fun leaf => leaf.field.isWritable := by
    apply List.ext_getElem?
    intro i
    have hi := congrArg (·[i]?) hcs
    simp only [List.getElem?_map] at hi ⊢
    cases hleaf : t.leaves[i]? with
    | none =>
      rw [hleaf, Option.map_none, eq_comm, Option.map_eq_none_iff] at hi
      rw [hi]
      rfl
    | some leaf =>
      rw [hleaf, Option.map_some, eq_comm, Option.map_eq_some_iff] at hi
      obtain ⟨clause, hclause, hok⟩ := hi
      rw [hclause, Option.map_some, Option.map_some, Leaf.showsField_of_clause hok.symm]
  rw [Expr.isWritable_eq_all, hreads.clauses_eq, all_alternate _ _ hreads.length_eq]
  have hall := congrArg (List.all · id) hfields
  simp only [List.all_map, Function.id_comp] at hall
  rw [hall]
  simp

/-- A test for equality with a text. -/
def equals (field value : String) : Construction :=
  .leaf (.comparing (.str field) .eq (.str value))

end Construction

end CaretQuery
