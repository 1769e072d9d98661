import CaretQuery.Files.Tree
import Mathlib

/-! # Items of a file tree

A file tree is known by what is at each place: nothing, a file with its content,
or a directory. To put an item at a place where no directory is changes what is
there and nothing else.
-/
namespace CaretQuery

/-- What is at a place, without what is below it. -/
inductive Item where
  | file (content : List UInt8)
  | directory
  deriving DecidableEq

/-- The item as an entry; a directory is empty. -/
def Item.entry : Item → Entry
  | .file content => .file content
  | .directory => .directory []

namespace Entry

def item : Entry → Item
  | .file content => .file content
  | .directory _ => .directory

/-- The entry that a list of names leads to from an entry. -/
def below? (e : Entry) (names : List String) : Option Entry :=
  match e with
  | .directory entries => Entries.entryAt? entries names
  | .file _ => if names = [] then some e else none

theorem below?_nil (e : Entry) : e.below? [] = some e := by
  cases e <;> rfl

theorem below?_entry (i : Item) {names : List String} (h : names ≠ []) :
    i.entry.below? names = none := by
  cases i with
  | file content => simp [Item.entry, below?, h]
  | directory =>
    cases names with
    | nil => exact absurd rfl h
    | cons name names => cases names <;> rfl

end Entry

theorem Item.item_entry (i : Item) : i.entry.item = i := by
  cases i <;> rfl

namespace Entries

variable {entries : Entries} {name first : String} {names place other : List String} {i : Item}

/-! ## Entries -/

theorem child?_cons (old : String × Entry) (entries : Entries) (name : String) :
    child? (old :: entries) name = if old.1 = name then some old.2 else child? entries name := by
  by_cases h : old.1 = name <;> simp [child?, h]

theorem child?_append (entries others : Entries) (name : String) :
    child? (entries ++ others) name = (child? entries name).or (child? others name) := by
  simp [child?, Option.map_or]

/-- Replacing the entries of a name. -/
theorem child?_map (entries : Entries) (name other : String) (e : Entry) :
    child? (entries.map fun old => if old.1 == name then (name, e) else old) other =
      if other = name ∧ (child? entries name).isSome then some e else child? entries other := by
  induction entries with
  | nil => simp [child?]
  | cons old entries ih =>
    rw [List.map_cons, child?_cons, child?_cons, child?_cons, ih]
    by_cases hold : old.1 = name <;> by_cases hother : other = name <;> grind

theorem child?_setChild (entries : Entries) (name other : String) (e : Entry) :
    child? (setChild entries name e) other =
      if other = name then some e else child? entries other := by
  have hany : entries.any (fun old => old.1 == name) = (child? entries name).isSome := by
    rw [child?, Option.isSome_map, List.isSome_find?]
  rw [setChild, hany]
  split
  next hsome => simp only [child?_map, hsome, and_true]
  next hnone =>
    rw [Bool.not_eq_true, Option.isSome_eq_false_iff, Option.isNone_iff_eq_none] at hnone
    rw [child?_append, child?_cons]
    by_cases hother : other = name
    · simp [hother, hnone]
    · simp [hother, Ne.symm hother, child?]

theorem entryAt?_cons :
    entries.entryAt? (name :: names) = (entries.child? name).bind fun e => e.below? names := by
  cases hchild : entries.child? name with
  | none => simp [entryAt?, hchild]
  | some e => cases e <;> cases names <;> simp [entryAt?, hchild, Entry.below?]

theorem entryAt?_append :
    entries.entryAt? (place ++ names) = (entries.entryAt? place).bind fun e => e.below? names := by
  induction place generalizing entries with
  | nil => rfl
  | cons name place ih =>
    rw [List.cons_append, entryAt?_cons, entryAt?_cons]
    cases entries.child? name with
    | none => rfl
    | some e =>
      cases e with
      | directory inner => exact ih
      | file content => cases place <;> simp [Entry.below?]

/-- What is at a place. -/
def itemAt? (entries : Entries) (place : List String) : Option Item :=
  (entries.entryAt? place).map Entry.item

theorem itemAt?_nil (entries : Entries) : entries.itemAt? [] = some .directory := rfl

/-- Only a directory has something below it. -/
theorem itemAt?_of_append (hnames : names ≠ []) (h : (entries.itemAt? (place ++ names)).isSome) :
    entries.itemAt? place = some .directory := by
  rw [itemAt?, Option.isSome_map, entryAt?_append] at h
  rw [itemAt?]
  cases hplace : entries.entryAt? place with
  | none => simp [hplace] at h
  | some e =>
    cases e with
    | directory inner => rfl
    | file content => simp [hplace, Entry.below?, hnames] at h

/-- Everything above an item is a directory. -/
theorem itemAt?_dropLast (h : (entries.itemAt? place).isSome) (hplace : place ≠ []) :
    entries.itemAt? place.dropLast = some .directory := by
  rw [← List.dropLast_append_getLast hplace] at h
  exact itemAt?_of_append (List.cons_ne_nil _ _) h

/-! ## Putting an item at a place -/

theorem setAt_cons (e : Entry) (hnames : names ≠ []) :
    entries.setAt (name :: names) e =
      match entries.child? name with
      | some (.directory inner) => entries.setChild name (.directory (setAt inner names e))
      | _ => entries := by
  cases names with
  | nil => exact absurd rfl hnames
  | cons next names => rfl

theorem itemAt?_cons_of_child {e : Entry} (h : entries.child? name = some e) :
    entries.itemAt? (name :: names) = (e.below? names).map Entry.item := by
  rw [itemAt?, entryAt?_cons, h, Option.bind_some]

theorem itemAt?_setChild (e : Entry) :
    (entries.setChild name e).itemAt? (first :: names) =
      if first = name then (e.below? names).map Entry.item
      else entries.itemAt? (first :: names) := by
  rw [itemAt?, itemAt?, entryAt?_cons, entryAt?_cons, child?_setChild]
  split <;> rfl

/-- An item is put at a place in a directory, and nothing else changes. -/
theorem itemAt?_setAt (hplace : entries.itemAt? (place ++ [name]) ≠ some .directory) (i : Item) :
    (entries.setAt (place ++ [name]) i.entry).itemAt? other =
      if other = place ++ [name] ∧ entries.itemAt? place = some .directory then some i
      else entries.itemAt? other := by
  induction place generalizing entries other with
  | nil =>
    cases other with
    | nil => simp [itemAt?_nil]
    | cons first names =>
      have hset : entries.setAt ([] ++ [name]) i.entry = entries.setChild name i.entry := rfl
      rw [hset, itemAt?_setChild]
      by_cases hfirst : first = name
      · subst hfirst
        cases names with
        | nil => simp [Entry.below?_nil, Item.item_entry, itemAt?_nil]
        | cons next names =>
          have hbelow : entries.itemAt? (first :: next :: names) = none := by
            by_contra hsome
            have hsome : (entries.itemAt? ([first] ++ next :: names)).isSome :=
              Option.isSome_iff_ne_none.2 hsome
            exact hplace (itemAt?_of_append (List.cons_ne_nil _ _) hsome)
          simp [Entry.below?_entry, hbelow]
      · simp [hfirst]
  | cons next place ih =>
    rw [List.cons_append, setAt_cons i.entry (by simp)]
    split
    next inner hchild =>
      have hbelow (names : List String) :
          entries.itemAt? (next :: names) = itemAt? inner names := by
        rw [itemAt?_cons_of_child hchild]
        rfl
      cases other with
      | nil => simp [itemAt?_nil]
      | cons first names =>
        rw [itemAt?_setChild]
        by_cases hfirst : first = next
        · subst hfirst
          rw [List.cons_append, hbelow] at hplace
          simp only [List.cons.injEq, true_and, hbelow, if_pos]
          exact ih hplace
        · simp [hfirst]
    next hchild =>
      have hparent : entries.itemAt? (next :: place) ≠ some .directory := by
        intro hdirectory
        cases hnext : entries.child? next with
        | none => simp [itemAt?, entryAt?_cons, hnext] at hdirectory
        | some e =>
          rw [itemAt?_cons_of_child hnext] at hdirectory
          cases e with
          | directory inner => exact hchild inner hnext
          | file content => cases place <;> simp [Entry.below?, Entry.item] at hdirectory
      simp [hparent]

end Entries

namespace Files

variable {files : Files} {place other names : List String} {name : String}

/-- What is at a place. -/
def itemAt? (files : Files) (place : List String) : Option Item := files.root.itemAt? place

theorem itemAt?_nil (files : Files) : files.itemAt? [] = some .directory := rfl

theorem itemAt?_of_append (hnames : names ≠ []) (h : (files.itemAt? (place ++ names)).isSome) :
    files.itemAt? place = some .directory := Entries.itemAt?_of_append hnames h

theorem eq_or_directory_of_prefix (hother : other <+: place) (h : (files.itemAt? place).isSome) :
    other = place ∨ files.itemAt? other = some .directory := by
  obtain ⟨below, rfl⟩ := hother
  by_cases hbelow : below = []
  · exact .inl (by rw [hbelow, List.append_nil])
  · exact .inr (itemAt?_of_append hbelow h)

theorem itemAt?_dropLast (h : files.itemAt? place = some .directory) :
    files.itemAt? place.dropLast = some .directory := by
  by_cases hplace : place = []
  · subst hplace
    exact h
  · exact Entries.itemAt?_dropLast (by rw [← itemAt?, h]; rfl) hplace

theorem ne_nil_of_itemAt? (h : files.itemAt? place ≠ some .directory) : place ≠ [] := by
  rintro rfl
  exact h (itemAt?_nil files)

/-- An item is put at a place in a directory, and nothing else changes. -/
theorem itemAt?_put (hplace : files.itemAt? place ≠ some .directory) (i : Item)
    (other : List String) :
    (files.put place i.entry).itemAt? other =
      if other = place ∧ files.itemAt? place.dropLast = some .directory then some i
      else files.itemAt? other := by
  obtain ⟨above, name, rfl⟩ : ∃ above name, place = above ++ [name] :=
    ⟨_, _, (List.dropLast_append_getLast (ne_nil_of_itemAt? hplace)).symm⟩
  rw [List.dropLast_concat]
  exact Entries.itemAt?_setAt hplace i

end Files
end CaretQuery
