import CaretQuery.Proofs.CommandLine.Checks

/-! # File trees that differ at one place

Two file trees that are the same but for what is at one place, where each may
have a file. What is done with a path that does not lead through that place is
the same for both, and leaves two trees that differ at that place only.
-/
namespace CaretQuery.Files

open CommandLine (Alike)

variable {f g : Files} {p : Path} {place q : List String} {names : List String} {text : String}

/-- The current directory is there, and its names are ordinary. -/
structure IsPlaced (files : Files) : Prop where
  ordinary : ∀ name ∈ files.current, IsOrdinary name
  directory : files.itemAt? files.current = some .directory

theorem isPlaced_empty : IsPlaced {} := ⟨by simp, rfl⟩

/-- Two file trees are the same but for a place where neither has a directory. -/
structure DiffersAt (place : List String) (f g : Files) : Prop where
  current : g.current = f.current
  itemAt? : ∀ q, q ≠ place → g.itemAt? q = f.itemAt? q
  left : f.itemAt? place ≠ some .directory
  right : g.itemAt? place ≠ some .directory
  placed : f.IsPlaced

namespace DiffersAt

theorem symm (h : f.DiffersAt place g) : g.DiffersAt place f where
  current := h.current.symm
  itemAt? q hq := (h.itemAt? q hq).symm
  left := h.right
  right := h.left
  placed := by
    have hcurrent : f.current ≠ place := by
      rintro rfl
      exact h.left h.placed.directory
    refine ⟨by rw [h.current]; exact h.placed.ordinary, ?_⟩
    rw [h.current, h.itemAt? _ hcurrent]
    exact h.placed.directory

/-- The directories are the same. -/
theorem itemAt?_eq_directory_iff (h : f.DiffersAt place g) (q : List String) :
    g.itemAt? q = some .directory ↔ f.itemAt? q = some .directory := by
  by_cases hq : q = place
  · subst hq
    exact iff_of_false h.right h.left
  · rw [h.itemAt? q hq]

/-- A file is put where no directory is. -/
theorem of_put (hplaced : f.IsPlaced) (hitem : f.itemAt? place ≠ some .directory)
    (content : List UInt8) : f.DiffersAt place (f.put place (Item.file content).entry) where
  current := rfl
  itemAt? q hq := by rw [itemAt?_put hitem, if_neg fun hplace => hq hplace.1]
  left := hitem
  right := by
    rw [itemAt?_put hitem]
    split
    · nofun
    · exact hitem
  placed := hplaced

/-! ## Paths that lead elsewhere -/

theorem itemAt?_of_notMem (h : f.DiffersAt place g) (hplace : place ∉ f.trailOf p) :
    ∀ q ∈ f.trailOf p, f.itemAt? q = g.itemAt? q := by
  intro q hq
  exact (h.itemAt? q (ne_of_mem_of_not_mem hq hplace)).symm

theorem locate_eq (h : f.DiffersAt place g) (hplace : place ∉ f.trailOf p) :
    f.locate p = g.locate p := locate_congr h.current (h.itemAt?_of_notMem hplace)

theorem itemAt?_of_locate (h : f.DiffersAt place g) (hplace : place ∉ f.trailOf p)
    (hlocate : f.locate p = .ok q) : f.itemAt? q = g.itemAt? q := by
  obtain ⟨rfl, -⟩ := locate_eq_ok hlocate
  exact h.itemAt?_of_notMem hplace _ foldl_mem_trail

theorem read_eq (h : f.DiffersAt place g) (hplace : place ∉ f.trailOf p) :
    f.read p = g.read p := by
  rw [Files.read_eq, Files.read_eq, ← h.locate_eq hplace]
  cases hlocate : f.locate p with
  | error e => rfl
  | ok q => simp only [h.itemAt?_of_locate hplace hlocate]

theorem isDirectory_eq (h : f.DiffersAt place g) (hplace : place ∉ f.trailOf p) :
    f.isDirectory p = g.isDirectory p := by
  rw [Files.isDirectory_eq, Files.isDirectory_eq, ← h.locate_eq hplace]
  cases hlocate : f.locate p with
  | error e => rfl
  | ok q => simp only [h.itemAt?_of_locate hplace hlocate]

theorem aim_eq (h : f.DiffersAt place g) (hplace : place ∉ f.trailOf p) :
    f.aim p = g.aim p := by
  have hparent : f.locate p.parent = g.locate p.parent :=
    h.locate_eq fun hmem => hplace (trailOf_parent_subset hmem)
  cases hlocate : f.locate p with
  | ok q =>
    rw [aim_of_locate hlocate, aim_of_locate ((h.locate_eq hplace).symm.trans hlocate),
      h.itemAt?_of_locate hplace hlocate]
  | error e =>
    have hlater := (h.locate_eq hplace).symm.trans hlocate
    rw [aim, aim, target, target, hlocate, hlater, ← hparent]
    cases e <;> rfl

/-- A path that can be read without leading to the place does not lead through it. -/
theorem notMem_trailOf_of_read (h : f.DiffersAt place g) {content : List UInt8}
    (hread : f.read p = .ok content) (hplace : f.placeOf p ≠ place) : place ∉ f.trailOf p := by
  intro hmem
  obtain ⟨q, hlocate, -⟩ := read_eq_ok_iff.1 hread
  obtain ⟨rfl, hwalk⟩ := locate_eq_ok hlocate
  rcases (walk_eq_ok hwalk).2 place hmem with heq | hdirectory
  · exact hplace heq.symm
  · exact h.left hdirectory

/-! ## Names of directories -/

theorem namesDirectory_imp (h : f.DiffersAt place g) (hnames : f.namesDirectory text = true) :
    g.namesDirectory text = true := by
  obtain ⟨htext, q, hwalk, hdirectory⟩ := namesDirectory_iff.1 hnames
  have htrail : ∀ r ∈ trail (f.start (text.startsWith "/")) (Path.pieces text),
      f.itemAt? r = g.itemAt? r := by
    intro r hr
    have hr : f.itemAt? r = some .directory := by
      rcases (walk_eq_ok hwalk).2 r hr with rfl | hr
      · exact hdirectory
      · exact hr
    rw [hr, (h.itemAt?_eq_directory_iff r).2 hr]
  rw [walk_congr htrail, ← start_congr h.current] at hwalk
  exact namesDirectory_iff.2 ⟨htext, q, hwalk, (h.itemAt?_eq_directory_iff q).2 hdirectory⟩

theorem namesDirectory_eq (h : f.DiffersAt place g) (text : String) :
    f.namesDirectory text = g.namesDirectory text := by
  rw [Bool.eq_iff_iff]
  exact ⟨h.namesDirectory_imp, h.symm.namesDirectory_imp⟩

/-! ## Changes elsewhere -/

theorem put (h : f.DiffersAt place g) (hq : q ≠ place) (hitem : f.itemAt? q ≠ some .directory)
    (i : Item) : (f.put q i.entry).DiffersAt place (g.put q i.entry) := by
  have hlater : g.itemAt? q ≠ some .directory := fun hdirectory =>
    hitem ((h.itemAt?_eq_directory_iff q).1 hdirectory)
  have hleft := itemAt?_put hitem i
  have hright := itemAt?_put hlater i
  refine ⟨h.current, fun r hr => ?_, ?_, ?_, h.placed.ordinary, ?_⟩
  · rw [hleft, hright, h.itemAt? r hr]
    simp only [h.itemAt?_eq_directory_iff]
  · rw [hleft, if_neg fun hplace => hq hplace.1.symm]
    exact h.left
  · rw [hright, if_neg fun hplace => hq hplace.1.symm]
    exact h.right
  · have hcurrent : f.current ≠ q := by
      rintro rfl
      exact hitem h.placed.directory
    refine (hleft f.current).trans ?_
    rw [if_neg fun hplace => hcurrent hplace.1, h.placed.directory]

theorem update_alike (h : f.DiffersAt place g) (hplace : place ∉ f.trailOf p)
    (change : List UInt8 → List UInt8) :
    Alike (DiffersAt place) (f.update p change) (g.update p change) := by
  rw [update_eq, update_eq, ← h.aim_eq hplace]
  cases haim : f.aim p with
  | error e => exact .error _
  | ok result =>
    obtain ⟨q, i?⟩ := result
    have hitem := (aim_eq_ok haim).1
    have hq := ne_of_aim haim hplace
    rcases i? with _ | ⟨content | _⟩
    · exact .ok (h.put hq (by simp [← hitem]) _)
    · exact .ok (h.put hq (by simp [← hitem]) _)
    · exact .error _

theorem makeDirectory_alike (h : f.DiffersAt place g) (hplace : place ∉ f.trailOf p) :
    Alike (DiffersAt place) (f.makeDirectory p) (g.makeDirectory p) := by
  rw [makeDirectory_eq, makeDirectory_eq, ← h.aim_eq hplace]
  cases haim : f.aim p with
  | error e => exact .error _
  | ok result =>
    obtain ⟨q, i?⟩ := result
    have hitem := (aim_eq_ok haim).1
    have hq := ne_of_aim haim hplace
    cases i? with
    | none => exact .ok (h.put hq (by simp [← hitem]) _)
    | some old => exact .error _

theorem ensureDirectory_alike (h : f.DiffersAt place g) (hplace : place ∉ f.trailOf p) :
    Alike (DiffersAt place) (f.ensureDirectory p) (g.ensureDirectory p) := by
  have hmake := h.makeDirectory_alike hplace
  rw [ensureDirectory, ensureDirectory]
  generalize f.makeDirectory p = x at hmake
  generalize g.makeDirectory p = y at hmake
  cases hmake with
  | ok hagree => exact .ok hagree
  | error e =>
    simp only [h.isDirectory_eq hplace]
    split
    · exact .ok h
    · exact .error _

theorem ensureAll_alike {root : String} (h : f.DiffersAt place g)
    (hplace : place ∉ f.trailOf ⟨root, names.reverse⟩) :
    Alike (DiffersAt place) (f.ensureAll root names) (g.ensureAll root names) := by
  induction names with
  | nil => exact h.ensureDirectory_alike hplace
  | cons name above ih =>
    have hmake := h.makeDirectory_alike hplace
    have hensure := h.ensureDirectory_alike hplace
    have habove : place ∉ f.trailOf ⟨root, above.reverse⟩ := by
      rw [List.reverse_cons] at hplace
      exact fun hmem => hplace (trail_subset_append [name] hmem)
    have hupper := ih habove
    rw [ensureAll, ensureAll]
    generalize f.makeDirectory ⟨root, (name :: above).reverse⟩ = x at hmake
    generalize g.makeDirectory ⟨root, (name :: above).reverse⟩ = y at hmake
    cases hmake with
    | ok hagree => exact hensure
    | error e =>
      cases e with
      | notFound =>
        cases hf : f.ensureAll root above <;> cases hg : g.ensureAll root above <;>
          rw [hf, hg] at hupper <;> cases hupper
        · exact .error _
        next mid other hmid =>
          refine hmid.ensureDirectory_alike ?_
          rwa [trailOf_congr (adds_of_ensureAll hf).current]
      | _ => exact hensure

theorem ensureDirectories_alike (h : f.DiffersAt place g) (hplace : place ∉ f.trailOf p) :
    Alike (DiffersAt place) (f.ensureDirectories p) (g.ensureDirectories p) :=
  h.ensureAll_alike (by rwa [List.reverse_reverse])

end DiffersAt

/-! ## Paths from the root -/

/-- Names as they are in paths: each is ordinary or leads up. -/
def IsPathName (name : String) : Prop := name ≠ "" ∧ name ≠ "."

theorem isPathName_ofText {name : String} (hname : name ∈ (Path.ofText text).names) :
    IsPathName name := by
  simpa [Path.ofText, IsPathName] using (List.mem_filter.1 hname).2

theorem foldl_nextPlace_ordinary (hnames : ∀ name ∈ names, IsOrdinary name) :
    names.foldl nextPlace place = place ++ names := by
  induction names generalizing place with
  | nil => simp
  | cons name names ih =>
    rw [List.forall_mem_cons] at hnames
    rw [List.foldl_cons, nextPlace, if_pos hnames.1, ih hnames.2]
    simp

/-- Taking out double dots gives the place that the names lead to. -/
theorem collapseNames_eq (hnames : ∀ name ∈ names, IsPathName name) :
    Path.collapseNames place.reverse names = names.foldl nextPlace place := by
  induction names generalizing place with
  | nil => simp [Path.collapseNames]
  | cons name names ih =>
    rw [List.forall_mem_cons] at hnames
    rw [Path.collapseNames, List.foldl_cons, ← ih hnames.2]
    by_cases hdots : name = ".."
    · have hname : ¬ IsOrdinary name := fun hname => hname.2.2 hdots
      rw [if_pos hdots, nextPlace, if_neg hname, if_pos hdots, List.tail_reverse]
    · rw [if_neg hdots, nextPlace, if_pos ⟨hnames.1.1, hnames.1.2, hdots⟩, List.reverse_append]
      rfl

theorem ordinary_nextPlace (hplace : ∀ name ∈ place, IsOrdinary name) (name : String) :
    ∀ other ∈ nextPlace place name, IsOrdinary other := by
  rw [nextPlace]
  split
  next hname => simpa [or_imp, forall_and] using ⟨hplace, hname⟩
  next =>
    split
    · exact fun other hother => hplace other (List.mem_of_mem_dropLast hother)
    · exact hplace

theorem ordinary_foldl_nextPlace (hplace : ∀ name ∈ place, IsOrdinary name) :
    ∀ name ∈ names.foldl nextPlace place, IsOrdinary name := by
  induction names generalizing place with
  | nil => exact hplace
  | cons name names ih => exact ih (ordinary_nextPlace hplace name)

/-- A walk comes by all that is above its last place, unless that is above its first one. -/
theorem prefix_or_mem_trail (hq : q <+: names.foldl nextPlace place) :
    q <+: place ∨ q ∈ trail place names := by
  induction names generalizing place with
  | nil => exact .inl hq
  | cons name names ih =>
    rw [trail, List.mem_cons]
    rcases ih hq with hnext | hmem
    · rw [nextPlace] at hnext
      split at hnext
      next hname =>
        rcases List.prefix_concat_iff.1 hnext with rfl | hplace
        · refine .inr (.inr ?_)
          rw [nextPlace, if_pos hname]
          exact mem_trail_self
        · exact .inl hplace
      next =>
        split at hnext
        · exact .inl (hnext.trans (List.dropLast_prefix place))
        · exact .inl hnext
    · exact .inr (.inr hmem)

theorem IsPlaced.ordinary_start (h : f.IsPlaced) (absolute : Bool) :
    ∀ name ∈ f.start absolute, IsOrdinary name := by
  rw [start]
  split
  · simp
  · exact h.ordinary

theorem IsPlaced.itemAt?_of_prefix (h : f.IsPlaced) {absolute : Bool}
    (hq : q <+: f.start absolute) : f.itemAt? q = some .directory := by
  have hstart : f.itemAt? (f.start absolute) = some .directory := by
    rw [start]
    split
    · exact itemAt?_nil f
    · exact h.directory
  rcases eq_or_directory_of_prefix hq (by rw [hstart]; rfl) with rfl | hdirectory
  · exact hstart
  · exact hdirectory

/-- The names of a path from the root are those of the place that it leads to. -/
theorem names_absolute (hplaced : f.IsPlaced) (hnames : ∀ name ∈ p.names, IsPathName name) :
    (f.absolute p).names = f.placeOf p := by
  have hcollapse {names : List String} (hnames : ∀ name ∈ names, IsPathName name) :
      Path.collapseNames [] names = names.foldl nextPlace [] := @collapseNames_eq [] names hnames
  rw [absolute, placeOf, start]
  split
  · exact hcollapse hnames
  · have hcurrent : f.current.foldl nextPlace [] = f.current :=
      (foldl_nextPlace_ordinary hplaced.ordinary).trans (List.nil_append _)
    rw [Path.collapse, hcollapse, List.foldl_append, hcurrent]
    intro name hname
    rcases List.mem_append.1 hname with hname | hname
    · exact (hplaced.ordinary name hname).imp id And.left
    · exact hnames name hname

/-- A path from the root leads through no other files than the path itself. -/
theorem notMem_trailOf_absolute (hplaced : f.IsPlaced)
    (hnames : ∀ name ∈ p.names, IsPathName name) (hplace : place ∉ f.trailOf p)
    (hitem : f.itemAt? place ≠ some .directory) : place ∉ f.trailOf (f.absolute p) := by
  have hordinary : ∀ name ∈ f.placeOf p, IsOrdinary name :=
    ordinary_foldl_nextPlace (hplaced.ordinary_start p.isAbsolute)
  intro hmem
  rw [trailOf, names_absolute hplaced hnames, start, if_pos (f.isAbsolute_absolute p)] at hmem
  have hprefix := prefix_of_mem_trail (fun hdots => (hordinary _ hdots).2.2 rfl) place hmem
  rw [foldl_nextPlace_ordinary hordinary, List.nil_append] at hprefix
  rcases prefix_or_mem_trail hprefix with hstart | htrail
  · exact hitem (hplaced.itemAt?_of_prefix hstart)
  · exact hplace htrail

end CaretQuery.Files
