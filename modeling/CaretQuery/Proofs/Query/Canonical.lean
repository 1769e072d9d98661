import CaretQuery.Expression
import CaretQuery.Proofs.Filter.Outcome
import CaretQuery.Proofs.Query.Segment

/-! # Canonical filters and sorts are written without loss

A canonical filter is a row of tests by built-in operators with a join between
neighbours, and a canonical sort is a list of keys that name their direction.
Fields are plain names, values are texts without the separator. The query is
then cut at its separators: a segment tells whether it belongs to the filter or
to the sort, a filter segment tells its join and its test, and a sort segment
its direction and field. So no two canonical inputs have the same query.
-/
namespace CaretQuery

/-- A test by a built-in operator. The value is empty where the operator takes none, and it does
not complete the token of a strict comparison to another token. -/
structure CanonicalTest where
  field : String
  op : Operator
  value : String
  isFieldName : IsFieldName field
  op_mem : op ∈ builtinRows
  value_eq : op.requiresValue = false → value = ""
  separator_notMem : '^' ∉ value.toList
  value_head : IsStrict op → value.toList.head? ≠ some '='

namespace CanonicalTest

def items (t : CanonicalTest) : List Value :=
  .str t.field :: .str t.op.name :: if t.op.requiresValue then [.str t.value] else []

def text (t : CanonicalTest) : String := t.field ++ t.op.token ++ t.value

theorem toList_text (t : CanonicalTest) :
    t.text.toList = t.field.toList ++ (t.op.token.toList ++ t.value.toList) := by
  simp [text, List.append_assoc]

theorem text_injective {t u : CanonicalTest} (h : t.text = u.text) : t = u := by
  have htext := congrArg String.toList h
  rw [toList_text, toList_text] at htext
  obtain ⟨c, cs, hc, hcfield⟩ := token_head t.op_mem
  obtain ⟨d, ds, hd, hdfield⟩ := token_head u.op_mem
  obtain ⟨hfield, hrest⟩ := field_append_inj t.isFieldName u.isFieldName
    (by simp [hc, hcfield]) (by simp [hd, hdfield]) htext
  obtain ⟨hop, hvalue⟩ := token_append_inj t.op_mem u.op_mem t.value_head u.value_head hrest
  cases t
  cases u
  simp_all [String.toList_inj]

theorem exists_toList_text (t : CanonicalTest) :
    ∃ c cs, t.text.toList = c :: cs ∧ isFieldChar c = true := by
  obtain ⟨c, cs, hfield, hc⟩ := t.isFieldName.exists_toList
  exact ⟨c, _, by rw [toList_text, hfield]; rfl, hc⟩

theorem separator_notMem_text (t : CanonicalTest) : '^' ∉ t.text.toList := by
  rw [toList_text]
  simp only [List.mem_append, not_or]
  exact ⟨t.isFieldName.notMem rfl, separator_notMem_token t.op_mem, t.separator_notMem⟩

theorem acceptable_items (t : CanonicalTest) (last : Bool) : Acceptable .builtin last t.items := by
  rw [items]
  cases hvalue : t.op.requiresValue with
  | true => exact .comparison t.op t.op_mem rfl
  | false => exact .test t.op t.op_mem rfl hvalue

theorem encodes_items (t : CanonicalTest) : Encodes .builtin t.items t.text := by
  rw [items, text, ← Value.text_str t.field]
  cases hvalue : t.op.requiresValue with
  | true =>
    rw [← Value.text_str t.value]
    exact .comparison t.op t.op_mem rfl
  | false =>
    rw [t.value_eq hvalue, String.append_empty]
    exact .test t.op t.op_mem rfl

theorem isLegible_items (t : CanonicalTest) : IsLegible .builtin t.items := by
  have htexts : ∀ v ∈ t.items, v.isWritable = true := by
    rw [items]
    split <;> simp
  exact fun v hshown => htexts v hshown.mem

theorem filterStep_items (t : CanonicalTest) (size index : Nat) :
    filterStep .builtin size index t.items = .ok [t.text] := by
  rw [filterStep, filterFragment_of_encodes (t.acceptable_items _) t.isLegible_items
    t.encodes_items]
  rfl

end CanonicalTest

/-! ## Filters -/

/-- No test at all, or tests with a join between neighbours. -/
inductive CanonicalFilter where
  | empty
  | chain (first : CanonicalTest) (rest : List (Join × CanonicalTest))

/-- What a join writes behind the separator. -/
def Join.mark : Join → List Char
  | .and => []
  | .or => ['O', 'R']
  | .group => ['N', 'Q']

theorem Join.toList_token (j : Join) : j.token.toList = '^' :: j.mark := by
  cases j <;> rfl

/-- A segment of a filter: what the join before a test writes, and the test. -/
def filterSegment (link : Join × CanonicalTest) : List Char := link.1.mark ++ link.2.text.toList

/-- A segment tells its join: the character after the mark belongs to a field. -/
theorem filterSegment_injective {link other : Join × CanonicalTest}
    (h : filterSegment link = filterSegment other) : link = other := by
  obtain ⟨j, t⟩ := link
  obtain ⟨k, u⟩ := other
  obtain ⟨c, cs, ht, hc⟩ := t.exists_toList_text
  obtain ⟨d, ds, hu, hd⟩ := u.exists_toList_text
  have hcO : c ≠ 'O' := ne_of_isFieldChar hc rfl
  have hcN : c ≠ 'N' := ne_of_isFieldChar hc rfl
  have hdO : 'O' ≠ d := (ne_of_isFieldChar hd rfl).symm
  have hdN : 'N' ≠ d := (ne_of_isFieldChar hd rfl).symm
  -- Under different joins one of the fields would begin with a letter of a mark.
  have hjoin : j = k := by
    cases j <;> cases k <;> simp_all [filterSegment, Join.mark]
  subst hjoin
  have htext : t.text = u.text := String.toList_inj.1 (List.append_cancel_left h)
  rw [CanonicalTest.text_injective htext]

theorem separator_notMem_filterSegment (link : Join × CanonicalTest) :
    '^' ∉ filterSegment link := by
  have hmark : '^' ∉ link.1.mark := by
    cases link.1 <;> simp [Join.mark]
  rw [filterSegment, List.mem_append, not_or]
  exact ⟨hmark, link.2.separator_notMem_text⟩

namespace CanonicalFilter

def toValue : CanonicalFilter → Value
  | .empty => .list []
  | .chain first rest =>
    .list (.tuple first.items :: rest.flatMap fun link => [.str link.1.word, .tuple link.2.items])

def fragments : CanonicalFilter → List String
  | .empty => []
  | .chain first rest =>
    first.text :: rest.flatMap (fun link => [link.1.token, link.2.text]) ++ [separator]

/-- The tests with the joins before them; the first stands where an `and` would leave it. -/
def links : CanonicalFilter → List (Join × CanonicalTest)
  | .empty => []
  | .chain first rest => (.and, first) :: rest

theorem links_injective {f g : CanonicalFilter} (h : f.links = g.links) : f = g := by
  cases f <;> cases g <;> simp_all [links]

theorem passFrom_links (links : List (Join × CanonicalTest)) (size index : Nat)
    (h : index + 2 * links.length ≤ size) :
    passFrom (filterStep .builtin size) index
        (links.flatMap fun link => [.str link.1.word, .tuple link.2.items]) =
      .ok (links.flatMap fun link => [link.1.token, link.2.text]) := by
  induction links generalizing index with
  | nil => rfl
  | cons link links ih =>
    rw [List.length_cons] at h
    have hjoin : filterStep .builtin size index (clauseItems (.str link.1.word)) =
        .ok [link.1.token] := filterStep_join link.1 (by omega)
    have htest : filterStep .builtin size (index + 1) (clauseItems (.tuple link.2.items)) =
        .ok [link.2.text] := link.2.filterStep_items size (index + 1)
    have hrest := ih (index + 1 + 1) (by omega)
    rw [List.flatMap_cons, List.flatMap_cons]
    exact passFrom_cons_eq_ok.2
      ⟨_, _, hjoin, passFrom_cons_eq_ok.2 ⟨_, _, htest, hrest, rfl⟩, rfl⟩

theorem compileFilter_toValue (f : CanonicalFilter) :
    compileFilter .builtin f.toValue = .ok f.fragments := by
  cases f with
  | empty => rfl
  | chain first rest =>
    have hclauses : normalizeClauses (toValue (.chain first rest)) = .tuple first.items ::
        rest.flatMap fun link => [.str link.1.word, .tuple link.2.items] := rfl
    have hlength : (rest.flatMap fun link : Join × CanonicalTest =>
        [Value.str link.1.word, .tuple link.2.items]).length = 2 * rest.length := by
      simp [List.length_flatMap, Nat.mul_comm]
    have hfirst := first.filterStep_items (2 * rest.length + 1) 0
    have hrest := passFrom_links rest (2 * rest.length + 1) 1 (by omega)
    rw [compileFilter_eq_pass, hclauses, List.length_cons, hlength,
      passFrom_cons_eq_ok.2 ⟨_, _, hfirst, hrest, rfl⟩]
    rfl

/-- Every segment of a filter has a separator behind it. -/
theorem toList_fragments (f : CanonicalFilter) :
    (String.join f.fragments).toList = (f.links.map filterSegment).flatMap (· ++ ['^']) := by
  cases f with
  | empty => rfl
  | chain first rest =>
    have hrest : (rest.flatMap fun link => [link.1.token, link.2.text]).flatMap String.toList ++
        ['^'] = '^' :: (rest.map filterSegment).flatMap (· ++ ['^']) := by
      induction rest with
      | nil => rfl
      | cons link rest ih =>
        rw [List.flatMap_cons, List.flatMap_append, List.append_assoc, ih]
        simp [filterSegment, Join.toList_token]
    have hfirst : filterSegment (.and, first) = first.text.toList := rfl
    rw [fragments, links, String.toList_join, List.map_cons, List.flatMap_cons, List.cons_append,
      List.flatMap_cons, List.flatMap_append, hfirst, List.append_assoc, List.singleton_append,
      ← hrest]
    rfl

end CanonicalFilter

/-! ## Sorts -/

/-- A key that names its direction. -/
structure CanonicalKey where
  field : String
  direction : Direction
  isFieldName : IsFieldName field

namespace CanonicalKey

def text (k : CanonicalKey) : String := k.direction.token ++ k.field

/-- No field name begins as the longer token goes on. -/
theorem text_injective {k l : CanonicalKey} (h : k.text = l.text) : k = l := by
  have htext := congrArg String.toList h
  have hk : 'D' ∉ k.field.toList := k.isFieldName.notMem rfl
  have hl : 'D' ∉ l.field.toList := l.isFieldName.notMem rfl
  obtain ⟨field, direction, hfield⟩ := k
  obtain ⟨field', direction', hfield'⟩ := l
  simp only [text, String.toList_append] at htext
  have hdirection : direction = direction' := by
    cases direction <;> cases direction'
    · rfl
    · have hrest : field.toList = "DESC".toList ++ field'.toList := by
        simpa [Direction.token] using htext
      simp [hrest] at hk
    · have hrest : "DESC".toList ++ field.toList = field'.toList := by
        simpa [Direction.token] using htext
      simp [← hrest] at hl
    · rfl
  subst hdirection
  obtain rfl : field = field' := String.toList_inj.1 (List.append_cancel_left htext)
  rfl

theorem separator_notMem_text (k : CanonicalKey) : '^' ∉ k.text.toList := by
  have htoken : '^' ∉ k.direction.token.toList := by
    cases k.direction <;> decide
  rw [text, String.toList_append, List.mem_append, not_or]
  exact ⟨htoken, k.isFieldName.notMem rfl⟩

theorem toList_text_ne_nil (k : CanonicalKey) : k.text.toList ≠ [] := by
  cases h : k.direction <;> simp [text, Direction.token, h]

theorem sortKey_items (k : CanonicalKey) :
    sortKey [.str k.field, .str k.direction.word] = .ok (some k.text) := by
  have hname : Direction.named? (.str k.direction.word) = some k.direction := by
    cases k.direction <;> rfl
  simp [sortKey, hname, writtenFrom, text]

end CanonicalKey

def sortToValue (keys : List CanonicalKey) : Value :=
  .list (keys.map fun k => sortBy k.direction (.str k.field))

/-- The segments of a sort; an empty sort leaves an empty one. -/
def sortSegments : List CanonicalKey → List (List Char)
  | [] => [[]]
  | k :: keys => (k :: keys).map fun k => k.text.toList

theorem sortFragmentsFrom_keys (keys : List CanonicalKey) (index : Nat) :
    sortFragmentsFrom (index + 1) (keys.map fun k => sortBy k.direction (.str k.field)) =
      .ok (keys.flatMap fun k => [separator, k.text]) := by
  induction keys generalizing index with
  | nil => rfl
  | cons k keys ih =>
    have hitems : clauseItems (sortBy k.direction (.str k.field)) =
        [.str k.field, .str k.direction.word] := rfl
    rw [List.map_cons, sortFragmentsFrom, hitems, k.sortKey_items]
    simp [ih, placed, Except.map]

theorem intercalate_keys (segment : List Char) (keys : List CanonicalKey) :
    ['^'].intercalate (segment :: keys.map fun k => k.text.toList) =
      segment ++ (keys.flatMap fun k => [separator, k.text]).flatMap String.toList := by
  induction keys generalizing segment with
  | nil => simp
  | cons k keys ih =>
    rw [List.map_cons, List.intercalate_cons_cons, ih]
    simp [separator]

/-- The keys of a sort are written with a separator between neighbours. -/
theorem compileSort_sortToValue (keys : List CanonicalKey) :
    ∃ fragments, compileSort (sortToValue keys) = .ok fragments ∧
      (String.join fragments).toList = ['^'].intercalate (sortSegments keys) := by
  cases keys with
  | nil => exact ⟨[], rfl, rfl⟩
  | cons k keys =>
    refine ⟨k.text :: keys.flatMap fun k => [separator, k.text], ?_, ?_⟩
    · have hclauses : normalizeClauses (sortToValue (k :: keys)) =
          (k :: keys).map fun k => sortBy k.direction (.str k.field) := rfl
      have hitems : clauseItems (sortBy k.direction (.str k.field)) =
          [.str k.field, .str k.direction.word] := rfl
      rw [compileSort, hclauses, List.map_cons, sortFragmentsFrom, hitems, k.sortKey_items]
      simp [sortFragmentsFrom_keys, placed, Except.map]
    · rw [sortSegments, List.map_cons, intercalate_keys, String.toList_join, List.flatMap_cons]

theorem separator_notMem_sortSegments {keys : List CanonicalKey} :
    ∀ segment ∈ sortSegments keys, '^' ∉ segment := by
  cases keys with
  | nil => simp [sortSegments]
  | cons k keys =>
    intro segment hsegment
    obtain ⟨key, -, rfl⟩ := List.mem_map.1 hsegment
    exact key.separator_notMem_text

theorem sortSegments_ne_nil (keys : List CanonicalKey) : sortSegments keys ≠ [] := by
  cases keys <;> simp [sortSegments]

theorem sortSegments_injective {keys others : List CanonicalKey}
    (h : sortSegments keys = sortSegments others) : keys = others := by
  match keys, others with
  | [], [] => rfl
  | [], l :: others =>
    rw [sortSegments, sortSegments, List.map_cons, List.cons.injEq] at h
    exact absurd h.1.symm l.toList_text_ne_nil
  | k :: keys, [] =>
    rw [sortSegments, sortSegments, List.map_cons, List.cons.injEq] at h
    exact absurd h.1 k.toList_text_ne_nil
  | k :: keys, l :: others =>
    exact (List.map_inj_right fun _ _ hkey =>
      CanonicalKey.text_injective (String.toList_inj.1 hkey)).1 h

/-! ## The query -/

/-- What the segments of a sort look like, and no segment of a filter. -/
def isSortSegment : List Char → Bool
  | [] => true
  | 'O' :: 'R' :: 'D' :: _ => true
  | _ => false

theorem isSortSegment_of_mem {keys : List CanonicalKey} :
    ∀ segment ∈ sortSegments keys, isSortSegment segment = true := by
  cases keys with
  | nil => simp [sortSegments, isSortSegment]
  | cons k keys =>
    intro segment hsegment
    obtain ⟨key, -, rfl⟩ := List.mem_map.1 hsegment
    cases h : key.direction <;> simp [CanonicalKey.text, Direction.token, h, isSortSegment]

theorem isSortSegment_filterSegment (link : Join × CanonicalTest) :
    isSortSegment (filterSegment link) = false := by
  obtain ⟨c, cs, htext, hc⟩ := link.2.exists_toList_text
  have hO : c ≠ 'O' := ne_of_isFieldChar hc rfl
  have hD : c ≠ 'D' := ne_of_isFieldChar hc rfl
  rw [filterSegment, htext]
  cases link.1 with
  | and => simp [Join.mark, isSortSegment, hO]
  | or => simp [Join.mark, isSortSegment, hD]
  | group => simp [Join.mark, isSortSegment]

/-- The segments of the query. -/
def querySegments (f : CanonicalFilter) (keys : List CanonicalKey) : List (List Char) :=
  f.links.map filterSegment ++ sortSegments keys

theorem separator_notMem_querySegments {f : CanonicalFilter} {keys : List CanonicalKey} :
    ∀ segment ∈ querySegments f keys, '^' ∉ segment := by
  intro segment hsegment
  rcases List.mem_append.1 hsegment with hfilter | hsort
  · obtain ⟨link, -, rfl⟩ := List.mem_map.1 hfilter
    exact separator_notMem_filterSegment link
  · exact separator_notMem_sortSegments segment hsort

theorem querySegments_injective {f g : CanonicalFilter} {keys others : List CanonicalKey}
    (h : querySegments f keys = querySegments g others) : f = g ∧ keys = others := by
  have hnone (f : CanonicalFilter) : (f.links.map filterSegment).filter isSortSegment = [] := by
    rw [List.filter_eq_nil_iff]
    intro segment hsegment
    obtain ⟨link, -, rfl⟩ := List.mem_map.1 hsegment
    simp [isSortSegment_filterSegment]
  have hall (keys : List CanonicalKey) : (sortSegments keys).filter isSortSegment =
      sortSegments keys := List.filter_eq_self.2 isSortSegment_of_mem
  have hsort : sortSegments keys = sortSegments others := by
    have hfilter := congrArg (List.filter isSortSegment) h
    rwa [querySegments, querySegments, List.filter_append, List.filter_append, hnone, hnone, hall,
      hall] at hfilter
  rw [querySegments, querySegments, hsort] at h
  have hlinks : f.links = g.links :=
    (List.map_inj_right fun _ _ => filterSegment_injective).1 (List.append_cancel_right h)
  exact ⟨CanonicalFilter.links_injective hlinks, sortSegments_injective hsort⟩

/-- A canonical query is its segments with a separator between neighbours. -/
theorem advancedQuery_canonical (f : CanonicalFilter) (keys : List CanonicalKey) :
    ∃ query, advancedQuery .builtin f.toValue (sortToValue keys) = .ok query ∧
      query.toList = ['^'].intercalate (querySegments f keys) := by
  obtain ⟨sorted, hsorted, htext⟩ := compileSort_sortToValue keys
  refine ⟨String.join (f.fragments ++ sorted), ?_, ?_⟩
  · have hgiven : (sortToValue keys).isNone = false := rfl
    simp [advancedQuery, hgiven, f.compileFilter_toValue, hsorted, Except.map]
  · rw [String.join_append, String.toList_append, f.toList_fragments, htext, querySegments,
      intercalate_append (sortSegments_ne_nil keys)]

/-- Canonical input can always be written, and the query determines it. -/
theorem canonical_query_injective (f g : CanonicalFilter) (keys others : List CanonicalKey) :
    (∃ query, advancedQuery .builtin f.toValue (sortToValue keys) = .ok query) ∧
      (advancedQuery .builtin f.toValue (sortToValue keys) =
        advancedQuery .builtin g.toValue (sortToValue others) → f = g ∧ keys = others) := by
  obtain ⟨query, hquery, htext⟩ := advancedQuery_canonical f keys
  obtain ⟨query', hquery', htext'⟩ := advancedQuery_canonical g others
  refine ⟨⟨query, hquery⟩, ?_⟩
  intro h
  obtain rfl : query = query' := Except.ok.inj (hquery.symm.trans (h.trans hquery'))
  have hne (f : CanonicalFilter) (keys : List CanonicalKey) : querySegments f keys ≠ [] := by
    simp [querySegments, sortSegments_ne_nil]
  exact querySegments_injective (eq_of_intercalate_eq (hne f keys) (hne g others)
    separator_notMem_querySegments separator_notMem_querySegments (htext.symm.trans htext'))

/-- A value that goes on as the token of another operator does is not canonical. -/
example : compileFilter .builtin (.list [.tuple [.str "rank", .str "-gt", .str "=5"]]) =
    compileFilter .builtin (.list [.tuple [.str "rank", .str "-ge", .str "5"]]) := by rfl

end CaretQuery
