import CaretQuery.Proofs.Files.Items

/-! # Walking through a file tree

A walk along names stands at one place after another, and which places these
are depends on the names alone. Every place but the last one has to be a
directory, so the outcome of a walk is settled by the items on its trail, and it
stays the same when files change their content and other items are added.
-/
namespace CaretQuery.Files

variable {f g h : Files} {p : Path} {place last next : List String} {name : String}
variable {names more : List String} {i : Item}

/-! ## Places -/

/-- A name of something in a directory, not of the directory or of the one above it. -/
def IsOrdinary (name : String) : Prop := name ≠ "" ∧ name ≠ "." ∧ name ≠ ".."

instance : DecidablePred IsOrdinary :=
  fun name => inferInstanceAs (Decidable (name ≠ "" ∧ name ≠ "." ∧ name ≠ ".."))

/-- The place that a name leads to, whatever is there. -/
def nextPlace (place : List String) (name : String) : List String :=
  if IsOrdinary name then place ++ [name] else if name = ".." then place.dropLast else place

/-- The places at which a walk along names stands, from the first to the last one. -/
def trail (place : List String) : List String → List (List String)
  | [] => [place]
  | name :: names => place :: trail (nextPlace place name) names

def trailOf (files : Files) (p : Path) : List (List String) :=
  trail (files.start p.isAbsolute) p.names

/-- The place that a path leads to, whatever is there. -/
def placeOf (files : Files) (p : Path) : List String :=
  p.names.foldl nextPlace (files.start p.isAbsolute)

theorem mem_trail_self : place ∈ trail place names := by
  cases names <;> simp [trail]

theorem foldl_mem_trail : names.foldl nextPlace place ∈ trail place names := by
  induction names generalizing place with
  | nil => simp [trail]
  | cons name names ih => exact List.mem_cons_of_mem _ ih

theorem trail_subset_append (more : List String) :
    trail place names ⊆ trail place (names ++ more) := by
  induction names generalizing place with
  | nil =>
    rintro q hq
    rw [List.mem_singleton.1 hq]
    exact mem_trail_self
  | cons name names ih =>
    rw [List.cons_append, trail, trail]
    exact List.cons_subset_cons _ ih

theorem trailOf_parent_subset : f.trailOf p.parent ⊆ f.trailOf p := by
  by_cases hnames : p.names = []
  · simp [trailOf, Path.parent, Path.isAbsolute, hnames]
  · conv_rhs => rw [trailOf, ← List.dropLast_append_getLast hnames]
    exact trail_subset_append _

/-- Without double dots a walk only goes down. -/
theorem prefix_of_mem_trail (hnames : ".." ∉ names) :
    ∀ q ∈ trail place names, q <+: names.foldl nextPlace place := by
  induction names generalizing place with
  | nil => simp [trail]
  | cons name names ih =>
    rw [List.mem_cons, not_or] at hnames
    have hnext : place <+: nextPlace place name := by
      rw [nextPlace, if_neg (Ne.symm hnames.1)]
      split
      · exact List.prefix_append _ _
      · exact List.prefix_rfl
    rw [trail, List.foldl_cons, List.forall_mem_cons]
    exact ⟨hnext.trans (ih hnames.2 _ mem_trail_self), ih hnames.2⟩

/-! ## Steps -/

theorem isSome_child? {entries : Entries}
    (hplace : f.root.entryAt? place = some (.directory entries)) :
    (entries.child? name).isSome = (f.itemAt? (place ++ [name])).isSome := by
  rw [itemAt?, Entries.itemAt?, Entries.entryAt?_append, hplace, Option.isSome_map,
    Option.bind_some, Entry.below?, Entries.entryAt?_cons]
  cases entries.child? name with
  | none => rfl
  | some e => rw [Option.bind_some, Entry.below?_nil]

/-- A step depends on what is at the place and at the next one. -/
theorem step_eq (files : Files) (place : List String) (name : String) :
    files.step place name =
      if files.itemAt? place = some .directory then
        if ¬ IsOrdinary name then .ok (nextPlace place name)
        else if maxNameBytes < (Text.Utf8.encode name).length then .error .nameTooLong
        else if (files.itemAt? (nextPlace place name)).isSome then .ok (nextPlace place name)
        else .error .notFound
      else .error .notDirectory := by
  have hitem : files.itemAt? place = (files.root.entryAt? place).map Entry.item := rfl
  cases hplace : files.root.entryAt? place with
  | none => simp [step, hitem, hplace]
  | some e =>
    cases e with
    | file content => simp [step, hitem, hplace, Entry.item]
    | directory entries =>
      simp only [step, hitem, hplace, Option.map_some, Entry.item, if_pos, isSome_child? hplace]
      by_cases hdot : name = "" ∨ name = "."
      · rcases hdot with rfl | rfl <;> simp [nextPlace, IsOrdinary]
      · by_cases hdots : name = ".."
        · simp [hdots, nextPlace, IsOrdinary]
        · have hordinary : IsOrdinary name := by
            rw [not_or] at hdot
            exact ⟨hdot.1, hdot.2, hdots⟩
          simp only [nextPlace, hdot, hdots, hordinary, not_true_eq_false, if_false, if_true]

theorem step_eq_ok_iff :
    f.step place name = .ok next ↔
      next = nextPlace place name ∧ f.itemAt? place = some .directory ∧
        (IsOrdinary name →
          (Text.Utf8.encode name).length ≤ maxNameBytes ∧ (f.itemAt? next).isSome) := by
  rw [step_eq]
  split <;> grind

theorem step_eq_notFound_iff :
    f.step place name = .error .notFound ↔
      f.itemAt? place = some .directory ∧ IsOrdinary name ∧
        (Text.Utf8.encode name).length ≤ maxNameBytes ∧ f.itemAt? (place ++ [name]) = none := by
  rw [step_eq]
  split <;> grind [nextPlace, Option.isSome_iff_ne_none]

theorem step_eq_nameTooLong_iff :
    f.step place name = .error .nameTooLong ↔
      f.itemAt? place = some .directory ∧ IsOrdinary name ∧
        maxNameBytes < (Text.Utf8.encode name).length := by
  rw [step_eq]
  split <;> grind

/-! ## Walks -/

theorem walk_cons_eq_ok :
    f.walk place (name :: names) = .ok last ↔
      ∃ next, f.step place name = .ok next ∧ f.walk next names = .ok last := by
  rw [walk]
  cases f.step place name <;> simp

theorem walk_append :
    f.walk place (names ++ more) =
      match f.walk place names with
      | .error e => .error e
      | .ok place => f.walk place more := by
  induction names generalizing place with
  | nil => rfl
  | cons name names ih =>
    rw [List.cons_append, walk, walk]
    cases f.step place name with
    | error e => rfl
    | ok next => exact ih

theorem walk_of_append (hwalk : f.walk place (names ++ more) = .ok last) :
    ∃ mid, f.walk place names = .ok mid ∧ f.walk mid more = .ok last := by
  rw [walk_append] at hwalk
  cases hmid : f.walk place names with
  | error e => simp [hmid] at hwalk
  | ok mid => exact ⟨mid, rfl, by simpa [hmid] using hwalk⟩

/-- Where a walk that succeeds ends, and what it passes. -/
theorem walk_eq_ok (hwalk : f.walk place names = .ok last) :
    last = names.foldl nextPlace place ∧
      ∀ q ∈ trail place names, q = last ∨ f.itemAt? q = some .directory := by
  induction names generalizing place with
  | nil =>
    obtain rfl : place = last := Except.ok.inj hwalk
    exact ⟨rfl, by simp [trail]⟩
  | cons name names ih =>
    obtain ⟨next, hstep, hrest⟩ := walk_cons_eq_ok.1 hwalk
    obtain ⟨rfl, hplace, -⟩ := step_eq_ok_iff.1 hstep
    obtain ⟨hlast, hpassed⟩ := ih hrest
    rw [trail, List.forall_mem_cons]
    exact ⟨hlast, .inr hplace, hpassed⟩

/-- A walk that starts at something ends at something. -/
theorem isSome_of_walk (hplace : (f.itemAt? place).isSome) (hwalk : f.walk place names = .ok last) :
    (f.itemAt? last).isSome := by
  induction names generalizing place with
  | nil => rwa [← Except.ok.inj hwalk]
  | cons name names ih =>
    obtain ⟨next, hstep, hrest⟩ := walk_cons_eq_ok.1 hwalk
    obtain ⟨rfl, hdirectory, hordinary⟩ := step_eq_ok_iff.1 hstep
    refine ih ?_ hrest
    by_cases hname : IsOrdinary name
    · exact (hordinary hname).2
    · rw [nextPlace, if_neg hname]
      split
      · rw [itemAt?_dropLast hdirectory]
        rfl
      · exact hplace

/-- The same items on the trail make the same walk. -/
theorem walk_congr (hitems : ∀ q ∈ trail place names, f.itemAt? q = g.itemAt? q) :
    f.walk place names = g.walk place names := by
  induction names generalizing place with
  | nil => rfl
  | cons name names ih =>
    rw [trail, List.forall_mem_cons] at hitems
    have hstep : f.step place name = g.step place name := by
      rw [step_eq, step_eq, hitems.1, hitems.2 _ mem_trail_self]
    rw [walk, walk, hstep]
    cases hnext : g.step place name with
    | error e => rfl
    | ok next =>
      obtain rfl := (step_eq_ok_iff.1 hnext).1
      exact ih hitems.2

/-- Directories stay directories, and files stay files. -/
structure Keeps (f g : Files) : Prop where
  current : g.current = f.current
  directory : ∀ {place}, f.itemAt? place = some .directory → g.itemAt? place = some .directory
  file : ∀ {place content}, f.itemAt? place = some (.file content) →
    ∃ other, g.itemAt? place = some (.file other)

theorem Keeps.refl (f : Files) : f.Keeps f := ⟨rfl, id, fun hfile => ⟨_, hfile⟩⟩

theorem Keeps.trans (h₁ : f.Keeps g) (h₂ : g.Keeps h) : f.Keeps h where
  current := h₂.current.trans h₁.current
  directory hplace := h₂.directory (h₁.directory hplace)
  file hplace := by
    obtain ⟨content, hcontent⟩ := h₁.file hplace
    exact h₂.file hcontent

theorem Keeps.isSome (hkeeps : f.Keeps g) (hplace : (f.itemAt? place).isSome) :
    (g.itemAt? place).isSome := by
  obtain ⟨i, hi⟩ := Option.isSome_iff_exists.1 hplace
  cases i with
  | file content =>
    obtain ⟨other, hother⟩ := hkeeps.file hi
    rw [hother]
    rfl
  | directory =>
    rw [hkeeps.directory hi]
    rfl

theorem Keeps.step (hkeeps : f.Keeps g) (hstep : f.step place name = .ok next) :
    g.step place name = .ok next := by
  obtain ⟨hnext, hplace, hordinary⟩ := step_eq_ok_iff.1 hstep
  exact step_eq_ok_iff.2
    ⟨hnext, hkeeps.directory hplace, fun hname => (hordinary hname).imp id hkeeps.isSome⟩

theorem Keeps.walk (hkeeps : f.Keeps g) (hwalk : f.walk place names = .ok last) :
    g.walk place names = .ok last := by
  induction names generalizing place with
  | nil => exact hwalk
  | cons name names ih =>
    obtain ⟨next, hstep, hrest⟩ := walk_cons_eq_ok.1 hwalk
    exact walk_cons_eq_ok.2 ⟨next, hkeeps.step hstep, ih hrest⟩

/-- A name that is too long stays in the way. -/
theorem Keeps.walk_nameTooLong (hkeeps : f.Keeps g)
    (hwalk : f.walk place names = .error .nameTooLong) :
    g.walk place names = .error .nameTooLong := by
  induction names generalizing place with
  | nil => cases hwalk
  | cons name names ih =>
    rw [Files.walk] at hwalk ⊢
    cases hstep : f.step place name with
    | ok next =>
      simp only [hstep] at hwalk
      rw [hkeeps.step hstep]
      exact ih hwalk
    | error e =>
      obtain rfl : e = .nameTooLong := by simpa [hstep] using hwalk
      obtain ⟨hplace, hname, hlength⟩ := step_eq_nameTooLong_iff.1 hstep
      rw [step_eq_nameTooLong_iff.2 ⟨hkeeps.directory hplace, hname, hlength⟩]

/-! ## Paths -/

theorem start_congr (hcurrent : g.current = f.current) (absolute : Bool) :
    g.start absolute = f.start absolute := by
  rw [start, start, hcurrent]

theorem placeOf_congr (hcurrent : g.current = f.current) (p : Path) :
    g.placeOf p = f.placeOf p := by
  rw [placeOf, placeOf, start_congr hcurrent]

theorem trailOf_congr (hcurrent : g.current = f.current) (p : Path) :
    g.trailOf p = f.trailOf p := by
  rw [trailOf, trailOf, start_congr hcurrent]

theorem absolute_congr (hcurrent : g.current = f.current) (p : Path) :
    g.absolute p = f.absolute p := by
  rw [absolute, absolute, hcurrent]

theorem isAbsolute_absolute (files : Files) (p : Path) : (files.absolute p).isAbsolute := by
  rw [absolute]
  split
  next hp => exact hp
  next => rfl

/-- Where a path starts there is a directory. This holds of every path from the root. -/
def StartsInDirectory (files : Files) (p : Path) : Prop :=
  files.itemAt? (files.start p.isAbsolute) = some .directory

theorem StartsInDirectory.parent (hstart : f.StartsInDirectory p) :
    f.StartsInDirectory p.parent := hstart

theorem startsInDirectory_of_isAbsolute (hp : p.isAbsolute) : f.StartsInDirectory p := by
  rw [StartsInDirectory, start, if_pos hp, itemAt?_nil]

theorem Keeps.startsInDirectory (hkeeps : f.Keeps g) (hstart : f.StartsInDirectory p) :
    g.StartsInDirectory p := by
  rw [StartsInDirectory, start_congr hkeeps.current]
  exact hkeeps.directory hstart

theorem locate_eq_ok (hlocate : f.locate p = .ok place) :
    place = f.placeOf p ∧ f.walk (f.start p.isAbsolute) p.names = .ok place := by
  rw [locate] at hlocate
  split at hlocate
  · cases hlocate
  · exact ⟨(walk_eq_ok hlocate).1, hlocate⟩

theorem isSome_of_locate (hstart : f.StartsInDirectory p) (hlocate : f.locate p = .ok place) :
    (f.itemAt? place).isSome :=
  isSome_of_walk (by rw [hstart]; rfl) (locate_eq_ok hlocate).2

theorem locate_congr (hcurrent : g.current = f.current)
    (hitems : ∀ q ∈ f.trailOf p, f.itemAt? q = g.itemAt? q) : f.locate p = g.locate p := by
  rw [locate, locate, start_congr hcurrent, walk_congr hitems]

theorem Keeps.locate (hkeeps : f.Keeps g) (hlocate : f.locate p = .ok place) :
    g.locate p = .ok place := by
  rw [Files.locate] at hlocate ⊢
  split
  next hlong => simp [hlong] at hlocate
  next hshort =>
    rw [if_neg hshort] at hlocate
    rw [start_congr hkeeps.current]
    exact hkeeps.walk hlocate

theorem Keeps.locate_nameTooLong (hkeeps : f.Keeps g)
    (hlocate : f.locate p = .error .nameTooLong) : g.locate p = .error .nameTooLong := by
  rw [Files.locate] at hlocate ⊢
  split
  next => rfl
  next hshort =>
    rw [if_neg hshort] at hlocate
    rw [start_congr hkeeps.current]
    exact hkeeps.walk_nameTooLong hlocate

theorem isPresent_eq_true_iff : f.isPresent p = .ok true ↔ ∃ place, f.locate p = .ok place := by
  rw [isPresent, stat]
  cases f.locate p with
  | ok place => simp [Except.map]
  | error e => cases e <;> simp [Except.map]

/-- A path that is not there is a path that could not be located, for a reason other than a name
that is too long. -/
theorem isPresent_eq_false_iff :
    f.isPresent p = .ok false ↔ ∃ e, f.locate p = .error e ∧ e ≠ .nameTooLong := by
  rw [isPresent, stat]
  cases f.locate p with
  | ok place => simp [Except.map]
  | error e => cases e <;> simp [Except.map]

/-- What is read is settled by where the path leads and by the item there. -/
theorem read_eq (files : Files) (p : Path) :
    files.read p =
      match files.locate p with
      | .error e => .error ⟨e, p.text⟩
      | .ok place =>
        match files.itemAt? place with
        | some (.file content) => .ok content
        | _ => .error ⟨.isDirectory, p.text⟩ := by
  rw [read, stat]
  cases files.locate p with
  | error e => rfl
  | ok place =>
    simp only [Except.map, entryOf, itemAt?, Entries.itemAt?]
    cases files.root.entryAt? place with
    | none => rfl
    | some e => cases e <;> rfl

theorem read_eq_ok_iff {content : List UInt8} :
    f.read p = .ok content ↔
      ∃ place, f.locate p = .ok place ∧ f.itemAt? place = some (.file content) := by
  rw [read_eq]
  cases f.locate p with
  | error e => simp
  | ok place =>
    simp only [Except.ok.injEq, exists_eq_left']
    split <;> simp_all

/-- A file that is kept can still be read. -/
theorem Keeps.exists_read {content : List UInt8} (hkeeps : f.Keeps g)
    (hread : f.read p = .ok content) : ∃ other, g.read p = .ok other := by
  obtain ⟨place, hlocate, hitem⟩ := read_eq_ok_iff.1 hread
  obtain ⟨other, hother⟩ := hkeeps.file hitem
  exact ⟨other, read_eq_ok_iff.2 ⟨place, hkeeps.locate hlocate, hother⟩⟩

/-- Whether a path leads to a directory is settled by where it leads and by the item there. -/
theorem isDirectory_eq (files : Files) (p : Path) :
    files.isDirectory p =
      match files.locate p with
      | .error _ => false
      | .ok place =>
        match files.itemAt? place with
        | some (.file _) => false
        | _ => true := by
  rw [isDirectory, stat]
  cases files.locate p with
  | error e => rfl
  | ok place =>
    simp only [Except.map, entryOf, itemAt?, Entries.itemAt?]
    cases files.root.entryAt? place with
    | none => rfl
    | some e => cases e <;> rfl

theorem isDirectory_iff (hstart : f.StartsInDirectory p) :
    f.isDirectory p = true ↔
      ∃ place, f.locate p = .ok place ∧ f.itemAt? place = some .directory := by
  rw [isDirectory_eq]
  cases hlocate : f.locate p with
  | error e => simp
  | ok place =>
    obtain ⟨i, hi⟩ := Option.isSome_iff_exists.1 (isSome_of_locate hstart hlocate)
    cases i <;> simp [hi]

end CaretQuery.Files
