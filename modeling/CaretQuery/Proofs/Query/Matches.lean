import CaretQuery.Expression
import CaretQuery.Proofs.Filter.Outcome
import CaretQuery.Query.Basic
import CaretQuery.Text.Split
import Mathlib.Data.List.Forall2

/-! # Basic queries as advanced ones

The matches of a basic query are the clauses of a filter with an `and` between
neighbours, and its order is a sort of one key. Both encodings write the same
texts with separators around them; a basic query has the key in front, an
advanced one has it at the end. A value that cannot be written, as it is or
holds an integer with too many digits, ends both alike.
-/
namespace CaretQuery

/-! ## Clauses with a join between neighbours -/

/-- Wherever the clause stands in a filter, it is compiled to the text. -/
def Writes (table : OperatorTable) (clause : Value) (text : String) : Prop :=
  ∀ size index, filterStep table size index (clauseItems clause) = .ok [text]

variable {table : OperatorTable} {clauses : List Value} {texts : List String}

theorem passFrom_intersperse (h : List.Forall₂ (Writes table) clauses texts) (j : Join)
    (size index : Nat) (hsize : index + (clauses.intersperse (.str j.word)).length ≤ size) :
    passFrom (filterStep table size) index (clauses.intersperse (.str j.word)) =
      .ok (texts.intersperse j.token) := by
  induction h generalizing index with
  | nil => rfl
  | @cons clause text clauses texts hclause hrest ih =>
    cases hrest with
    | nil => exact passFrom_cons_eq_ok.2 ⟨_, _, hclause size index, rfl, rfl⟩
    | @cons next nextText clauses texts hnext hrest =>
      rw [List.intersperse_cons_cons, List.length_cons, List.length_cons] at hsize
      have hpos : 0 < ((next :: clauses).intersperse (.str j.word)).length := by
        cases clauses <;> simp
      have hjoin : filterStep table size (index + 1) (clauseItems (.str j.word)) = .ok [j.token] :=
        filterStep_join j (by omega)
      have htail := ih (index + 1 + 1) (by omega)
      exact passFrom_cons_eq_ok.2 ⟨_, _, hclause size index,
        passFrom_cons_eq_ok.2 ⟨_, _, hjoin, htail, rfl⟩, rfl⟩

/-- Wherever the clause stands in a filter, it ends the pass for an integer that cannot be shown. -/
def Stops (table : OperatorTable) (clause : Value) : Prop :=
  ∀ size index, filterStep table size index (clauseItems clause) = .error .longInteger

theorem passFrom_intersperse_of_stops
    (h : ∀ clause ∈ clauses, (∃ text, Writes table clause text) ∨ Stops table clause)
    (hstops : ∃ clause ∈ clauses, Stops table clause) (j : Join) (size index : Nat)
    (hsize : index + (clauses.intersperse (.str j.word)).length ≤ size) :
    ∃ error, passFrom (filterStep table size) index (clauses.intersperse (.str j.word)) =
      .error error ∧ error.fault = .longInteger := by
  have hfirst {clause : Value} (rest : List Value) (hclause : Stops table clause) :
      passFrom (filterStep table size) index (clause :: rest) =
        .error ⟨.longInteger, clause, some index⟩ := by
    rw [passFrom, hclause size index]
  induction clauses generalizing index with
  | nil => simp at hstops
  | cons clause clauses ih =>
    rw [List.forall_mem_cons] at h
    cases clauses with
    | nil => exact ⟨_, hfirst [] (by simpa using hstops), rfl⟩
    | cons next clauses =>
      rw [List.intersperse_cons_cons] at hsize ⊢
      rw [List.length_cons, List.length_cons] at hsize
      rcases h.1 with ⟨text, hwrites⟩ | hclause
      · have hrest : ∃ clause ∈ next :: clauses, Stops table clause := by
          obtain ⟨other, hmem, hother⟩ := hstops
          rcases List.mem_cons.1 hmem with rfl | hmem
          · cases (hwrites size index).symm.trans (hother size index)
          · exact ⟨other, hmem, hother⟩
        have hpos : 0 < ((next :: clauses).intersperse (.str j.word)).length := by
          cases clauses <;> simp
        have hjoin : filterStep table size (index + 1) (clauseItems (.str j.word)) =
            .ok [j.token] := filterStep_join j (by omega)
        obtain ⟨error, herror, hfault⟩ := ih h.2 hrest (index + 1 + 1) (by omega)
          fun rest hclause => by rw [passFrom, hclause size _]
        refine ⟨error, ?_, hfault⟩
        rw [passFrom, hwrites size index, passFrom, hjoin, herror]
        rfl
      · exact ⟨_, hfirst _ hclause, rfl⟩

theorem head?_intersperse {α : Type} (sep : α) (l : List α) :
    (l.intersperse sep).head? = l.head? := by
  rcases l with _ | ⟨a, _ | ⟨b, l⟩⟩ <;> simp

theorem join_map_append (s : String) {l : List String} (h : l ≠ []) :
    String.join (l.map (s ++ ·)) = s ++ s.intercalate l := by
  induction l with
  | nil => exact absurd rfl h
  | cons a l ih =>
    cases l with
    | nil => simp
    | cons b l =>
      rw [List.map_cons, String.join_cons, ih (by simp), String.intercalate_cons_cons]
      simp [String.append_assoc]

/-! ## Matches -/

/-- The clause that compares the field of a match, in lower case, with its value. -/
def matchClause (c : Comparison) (pair : String × Value) : Value :=
  .tuple [.str (Text.lowerString pair.1), .str c.operator.name, pair.2]

def matchText (c : Comparison) (pair : String × Value) : String :=
  Text.lowerString pair.1 ++ c.operator.token ++ pair.2.text

/-- The clauses of exact matches and then of matches by substring. -/
def matchClauses (exact contains : List (String × Value)) : List Value :=
  exact.map (matchClause .eq) ++ contains.map (matchClause .like)

def matchTexts (exact contains : List (String × Value)) : List String :=
  exact.map (matchText .eq) ++ contains.map (matchText .like)

/-- Matches as a filter, with an `and` between neighbours. -/
def matchFilter (exact contains : List (String × Value)) : Value :=
  .list ((matchClauses exact contains).intersperse (.str Join.and.word))

/-- Matches as a list of pairs. -/
def pairList (pairs : List (String × Value)) : Value :=
  .list (pairs.map fun pair => .tuple [.str pair.1, pair.2])

/-- The input of a basic query with its order and its matches. -/
def matchInput (orderBy : String) (d : Direction) (exact contains : List (String × Value)) :
    BasicInput where
  orderBy := .str orderBy
  direction := .direction d
  exact := pairList exact
  contains := pairList contains

/-- The values of all matches can be written. -/
def HaveTexts (pairs : List (String × Value)) : Prop := ∀ pair ∈ pairs, pair.2.isWritable = true

theorem not_haveTexts_iff {pairs : List (String × Value)} :
    ¬HaveTexts pairs ↔ ∃ pair ∈ pairs, pair.2.isWritable = false := by
  simp [HaveTexts]

theorem haveTexts_append {pairs others : List (String × Value)} :
    HaveTexts (pairs ++ others) ↔ HaveTexts pairs ∧ HaveTexts others := List.forall_mem_append

theorem filterStep_matchClause (c : Comparison) (pair : String × Value) (size index : Nat) :
    filterStep .builtin size index (clauseItems (matchClause c pair)) =
      if pair.2.isWritable then .ok [matchText c pair] else .error .longInteger := by
  have hop : OperatorTable.builtin.named? (.str c.operator.name) = some c.operator :=
    find?_comparison c
  cases hvalue : pair.2.isWritable <;>
    simp [matchClause, matchText, clauseItems, Value.items?, filterStep, filterFragment, hop,
      writtenFrom, hvalue, Except.map]

theorem writes_matchClause (c : Comparison) {pair : String × Value}
    (h : pair.2.isWritable = true) : Writes .builtin (matchClause c pair) (matchText c pair) := by
  intro size index
  rw [filterStep_matchClause, if_pos h]

theorem stops_matchClause (c : Comparison) {pair : String × Value}
    (h : pair.2.isWritable = false) : Stops .builtin (matchClause c pair) := by
  intro size index
  rw [filterStep_matchClause, h]
  rfl

theorem writes_matchClauses {exact contains : List (String × Value)}
    (h : HaveTexts (exact ++ contains)) :
    List.Forall₂ (Writes .builtin) (matchClauses exact contains) (matchTexts exact contains) := by
  have hmap (c : Comparison) {pairs : List (String × Value)} (h : HaveTexts pairs) :
      List.Forall₂ (Writes .builtin) (pairs.map (matchClause c)) (pairs.map (matchText c)) := by
    rw [List.forall₂_map_left_iff, List.forall₂_map_right_iff, List.forall₂_same]
    exact fun pair hpair => writes_matchClause c (h pair hpair)
  obtain ⟨hexact, hcontains⟩ := haveTexts_append.1 h
  exact List.rel_append (hmap .eq hexact) (hmap .like hcontains)

theorem exists_pair_of_mem_matchClauses {exact contains : List (String × Value)} {clause : Value}
    (h : clause ∈ matchClauses exact contains) :
    ∃ c, ∃ pair ∈ exact ++ contains, matchClause c pair = clause := by
  rcases List.mem_append.1 h with h | h
  · obtain ⟨pair, hpair, rfl⟩ := List.mem_map.1 h
    exact ⟨.eq, pair, List.mem_append_left _ hpair, rfl⟩
  · obtain ⟨pair, hpair, rfl⟩ := List.mem_map.1 h
    exact ⟨.like, pair, List.mem_append_right _ hpair, rfl⟩

theorem exists_mem_matchClauses {exact contains : List (String × Value)} {pair : String × Value}
    (h : pair ∈ exact ++ contains) : ∃ c, matchClause c pair ∈ matchClauses exact contains := by
  rcases List.mem_append.1 h with h | h
  · exact ⟨.eq, List.mem_append_left _ (List.mem_map_of_mem h)⟩
  · exact ⟨.like, List.mem_append_right _ (List.mem_map_of_mem h)⟩

theorem normalizeClauses_matchFilter (exact contains : List (String × Value)) :
    normalizeClauses (matchFilter exact contains) =
      (matchClauses exact contains).intersperse (.str Join.and.word) := by
  apply normalizeClauses_list
  intro first hfirst
  rw [head?_intersperse] at hfirst
  obtain ⟨c, pair, -, rfl⟩ := exists_pair_of_mem_matchClauses (List.mem_of_mem_head? hfirst)
  rfl

theorem compileFilter_matchFilter {exact contains : List (String × Value)}
    (h : HaveTexts (exact ++ contains)) :
    compileFilter .builtin (matchFilter exact contains) =
      .ok (terminated ((matchTexts exact contains).intersperse separator)) := by
  rw [compileFilter_eq_pass, normalizeClauses_matchFilter,
    passFrom_intersperse (writes_matchClauses h) .and _ 0 (by omega)]
  rfl

theorem exists_compileFilter_matchFilter_error {exact contains : List (String × Value)}
    (h : ¬HaveTexts (exact ++ contains)) :
    ∃ error, compileFilter .builtin (matchFilter exact contains) = .error error ∧
      error.fault = .longInteger := by
  have hclauses : ∀ clause ∈ matchClauses exact contains,
      (∃ text, Writes .builtin clause text) ∨ Stops .builtin clause := by
    intro clause hclause
    obtain ⟨c, pair, -, rfl⟩ := exists_pair_of_mem_matchClauses hclause
    cases hvalue : pair.2.isWritable with
    | true => exact .inl ⟨_, writes_matchClause c hvalue⟩
    | false => exact .inr (stops_matchClause c hvalue)
  obtain ⟨pair, hpair, hvalue⟩ := not_haveTexts_iff.1 h
  obtain ⟨c, hmem⟩ := exists_mem_matchClauses hpair
  obtain ⟨error, herror, hfault⟩ := passFrom_intersperse_of_stops hclauses
    ⟨_, hmem, stops_matchClause c hvalue⟩ .and _ 0 (Nat.le_of_eq (Nat.zero_add _))
  refine ⟨error, ?_, hfault⟩
  rw [compileFilter_eq_pass, normalizeClauses_matchFilter, herror]
  rfl

/-! ## Both encodings -/

theorem mapM_eq_ok_map {ε α β : Type} {f : α → Except ε β} {g : α → β} {xs : List α}
    (h : ∀ x ∈ xs, f x = .ok (g x)) : xs.mapM f = .ok (xs.map g) := by
  induction xs with
  | nil => rfl
  | cons x xs ih =>
    rw [List.forall_mem_cons] at h
    rw [List.mapM_cons, h.1, ih h.2]
    rfl

/-- Where all failures are the same, one of them is that of the whole. -/
theorem mapM_eq_error {ε α β : Type} {f : α → Except ε β} {e : ε} {xs : List α}
    (h : ∀ x ∈ xs, (∃ b, f x = .ok b) ∨ f x = .error e) (hfails : ∃ x ∈ xs, f x = .error e) :
    xs.mapM f = .error e := by
  induction xs with
  | nil => simp at hfails
  | cons x xs ih =>
    rw [List.forall_mem_cons] at h
    rw [List.mapM_cons]
    rcases h.1 with ⟨b, hb⟩ | hx
    · have hrest : ∃ x ∈ xs, f x = .error e := by
        obtain ⟨y, hy, hfault⟩ := hfails
        rcases List.mem_cons.1 hy with rfl | hy
        · cases hb.symm.trans hfault
        · exact ⟨y, hy, hfault⟩
      rw [hb, ih h.2 hrest]
      rfl
    · rw [hx]
      rfl

theorem matchFragments_eq_mapM (token : String) (pairs : List (String × Value)) :
    matchFragments token (pairList pairs) =
      pairs.mapM fun pair => matchFragment token (.str pair.1, pair.2) := by
  have hpairs : matchPairs (pairList pairs) =
      .ok (pairs.map fun pair => (.str pair.1, pair.2)) := by
    have hmap : (pairs.map fun pair => Value.tuple [.str pair.1, pair.2]).mapM asPair =
        .ok (pairs.map fun pair => (.str pair.1, pair.2)) := by
      rw [List.mapM_map]
      exact List.mapM_pure
    exact hmap
  rw [matchFragments, hpairs]
  simp only [bind, Except.bind]
  rw [List.mapM_map]
  rfl

theorem matchFragment_str (c : Comparison) (pair : String × Value) :
    matchFragment c.operator.token (.str pair.1, pair.2) =
      if pair.2.isWritable then .ok (separator ++ matchText c pair) else .error .longInteger := by
  cases hvalue : pair.2.isWritable <;>
    simp [matchFragment, lowerField, Value.asText?, bind, Except.bind, hvalue, matchText, separator,
      String.append_assoc]

theorem matchFragments_pairList (c : Comparison) {pairs : List (String × Value)}
    (h : HaveTexts pairs) :
    matchFragments c.operator.token (pairList pairs) =
      .ok (pairs.map fun pair => separator ++ matchText c pair) := by
  rw [matchFragments_eq_mapM]
  apply mapM_eq_ok_map
  intro pair hpair
  rw [matchFragment_str, if_pos (h pair hpair)]

theorem matchFragments_of_not_haveTexts (c : Comparison) {pairs : List (String × Value)}
    (h : ¬HaveTexts pairs) :
    matchFragments c.operator.token (pairList pairs) = .error .longInteger := by
  obtain ⟨pair, hpair, hvalue⟩ := not_haveTexts_iff.1 h
  rw [matchFragments_eq_mapM]
  refine mapM_eq_error (fun other _ => ?_) ⟨pair, hpair, ?_⟩
  · rw [matchFragment_str]
    cases other.2.isWritable
    · exact .inr rfl
    · exact .inl ⟨_, rfl⟩
  · rw [matchFragment_str, hvalue]
    rfl

/-- A match that cannot be written ends a basic query, whichever list it is in. -/
theorem basicQuery_of_not_haveTexts (orderBy : String) (d : Direction)
    {exact contains : List (String × Value)} (h : ¬HaveTexts (exact ++ contains)) :
    basicQuery (matchInput orderBy d exact contains) = .error (.data .longInteger) := by
  have hmatches : basicMatches (matchInput orderBy d exact contains) = .error .longInteger := by
    by_cases hexact : HaveTexts exact
    · have hcontains : ¬HaveTexts contains := fun hcontains =>
        h (haveTexts_append.2 ⟨hexact, hcontains⟩)
      have hfirst : matchFragments "=" (pairList exact) = _ := matchFragments_pairList .eq hexact
      have hsecond : matchFragments "LIKE" (pairList contains) = _ :=
        matchFragments_of_not_haveTexts .like hcontains
      simp [basicMatches, matchInput, hfirst, hsecond, bind, Except.bind]
    · have hfirst : matchFragments "=" (pairList exact) = _ :=
        matchFragments_of_not_haveTexts .eq hexact
      simp [basicMatches, matchInput, hfirst, bind, Except.bind]
  have hdirection : Direction.coerce (matchInput orderBy d exact contains).direction = .ok d := rfl
  simp [basicQuery, hdirection, hmatches]

/-- A basic query writes its matches behind its order. -/
theorem basicQuery_pairList (orderBy : String) (d : Direction)
    {exact contains : List (String × Value)} (h : HaveTexts (exact ++ contains)) :
    basicQuery (matchInput orderBy d exact contains) =
      .ok (d.token ++ orderBy ++
        String.join ((matchTexts exact contains).map (separator ++ ·))) := by
  obtain ⟨hexactTexts, hcontainsTexts⟩ := haveTexts_append.1 h
  have hexact : matchFragments "=" (pairList exact) = _ := matchFragments_pairList .eq hexactTexts
  have hcontains : matchFragments "LIKE" (pairList contains) = _ :=
    matchFragments_pairList .like hcontainsTexts
  have hmatches : basicMatches (matchInput orderBy d exact contains) =
      .ok (orderBy ++ String.join ((matchTexts exact contains).map (separator ++ ·))) := by
    simp [basicMatches, matchInput, hexact, hcontains, bind, Except.bind, Value.asText?, matchTexts,
      String.join_append, Function.comp_def]
  have hdirection : Direction.coerce (matchInput orderBy d exact contains).direction = .ok d := rfl
  simp [basicQuery, hdirection, hmatches, String.append_assoc]

/-- A sort of one key is the order of a basic query. -/
theorem compileSort_sortBy (d : Direction) (field : String) :
    compileSort (.list [sortBy d (.str field)]) = .ok [d.token ++ field] := by
  have hkey : sortStep 0 (clauseItems (sortBy d (.str field))) =
      .ok (placed 0 (some (d.token ++ field))) :=
    sortStep_direction 0 d (Value.isWritable_str field)
  rw [compileSort_eq_pass]
  exact passFrom_cons_eq_ok.2 ⟨_, [], hkey, rfl, rfl⟩

theorem advancedQuery_matchFilter (orderBy : String) (d : Direction)
    {exact contains : List (String × Value)} (h : HaveTexts (exact ++ contains)) :
    advancedQuery .builtin (matchFilter exact contains) (.list [sortBy d (.str orderBy)]) =
      .ok (String.join (terminated ((matchTexts exact contains).intersperse separator)) ++
        (d.token ++ orderBy)) := by
  have hgiven : (Value.list [sortBy d (.str orderBy)]).isNone = false := rfl
  simp [advancedQuery, hgiven, compileFilter_matchFilter h, compileSort_sortBy, Except.map,
    String.join_append]

theorem join_terminated_intersperse {texts : List String} (h : texts ≠ []) :
    String.join (terminated (texts.intersperse separator)) =
      separator.intercalate texts ++ separator := by
  have hne : texts.intersperse separator ≠ [] := by
    intro hnil
    have hhead := head?_intersperse separator texts
    rw [hnil, List.head?_nil, eq_comm, List.head?_eq_none_iff] at hhead
    exact h hhead
  rw [← Text.join_intersperse]
  simp [terminated, hne, String.join_append]

end CaretQuery
