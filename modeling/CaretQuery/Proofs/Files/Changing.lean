import CaretQuery.Proofs.Files.Walking

/-! # Changes of a file tree

To write a file or to make a directory changes one item, at the place that the
path leads to. Directories that are made on the way are new: what has been there
stays as it is.
-/
namespace CaretQuery.Files

variable {f g h : Files} {p : Path} {place : List String} {i : Item} {names : List String}
variable {places more : List (List String)} {content : List UInt8}
variable {change : List UInt8 → List UInt8}

/-! ## Aiming -/

/-- The place that a path names for a change, with what is there. -/
def aim (files : Files) (p : Path) : Except FileError (List String × Option Item) :=
  (files.target p).map fun (place, old) => (place, old.map Entry.item)

theorem update_eq (files : Files) (p : Path) (change : List UInt8 → List UInt8) :
    files.update p change =
      match files.aim p with
      | .ok (place, none) => .ok (files.put place (Item.file (change [])).entry)
      | .ok (place, some (.file content)) =>
        .ok (files.put place (Item.file (change content)).entry)
      | .ok (_, some .directory) => .error ⟨.isDirectory, p.text⟩
      | .error e => .error ⟨e, p.text⟩ := by
  rw [update, aim]
  cases files.target p with
  | error e => rfl
  | ok result =>
    obtain ⟨place, old⟩ := result
    cases old with
    | none => rfl
    | some e => cases e <;> rfl

theorem makeDirectory_eq (files : Files) (p : Path) :
    files.makeDirectory p =
      match files.aim p with
      | .ok (place, none) => .ok (files.put place Item.directory.entry)
      | .ok (_, some _) => .error .alreadyExists
      | .error e => .error e := by
  rw [makeDirectory, aim]
  cases files.target p with
  | error e => rfl
  | ok result =>
    obtain ⟨place, old⟩ := result
    cases old <;> rfl

theorem aim_of_locate (hlocate : f.locate p = .ok place) :
    f.aim p = .ok (place, f.itemAt? place) := by
  rw [aim, target, hlocate]
  rfl

theorem aim_of_notFound {name : String} (hnames : p.names = p.parent.names ++ [name])
    (hlocate : f.locate p = .error .notFound) :
    f.aim p = (f.locate p.parent).map fun above => (above ++ [name], none) := by
  rw [aim, target, hlocate, hnames]
  cases f.locate p.parent <;> simp [Except.map]

/-- The last name is what could not be found. -/
theorem step_of_notFound {name : String} {above : List String}
    (hnames : p.names = p.parent.names ++ [name]) (hlocate : f.locate p = .error .notFound)
    (hparent : f.locate p.parent = .ok above) : f.step above name = .error .notFound := by
  have hwalk : f.walk (f.start p.isAbsolute) p.names = .error .notFound := by
    rw [locate] at hlocate
    split at hlocate
    · cases hlocate
    · exact hlocate
  have habove : f.walk (f.start p.isAbsolute) p.parent.names = .ok above :=
    (locate_eq_ok hparent).2
  rw [hnames, walk_append, habove] at hwalk
  simp only [walk] at hwalk
  cases hstep : f.step above name with
  | error e => simpa [hstep] using hwalk
  | ok next => simp [hstep] at hwalk

/-- A path leads to something, or its last name leads nowhere from the directory that the others
lead to. -/
theorem aim_eq_ok {i? : Option Item} (haim : f.aim p = .ok (place, i?)) :
    i? = f.itemAt? place ∧
      (f.locate p = .ok place ∨
        ∃ above name, p.names = p.parent.names ++ [name] ∧ place = above ++ [name] ∧
          f.locate p = .error .notFound ∧ f.locate p.parent = .ok above ∧
          f.step above name = .error .notFound) := by
  cases hlocate : f.locate p with
  | ok located =>
    rw [aim_of_locate hlocate] at haim
    obtain ⟨rfl, rfl⟩ := Prod.mk.inj (Except.ok.inj haim)
    exact ⟨rfl, .inl rfl⟩
  | error e =>
    cases e with
    | notFound =>
      rcases List.eq_nil_or_concat p.names with hnil | ⟨names, name, hconcat⟩
      · rw [aim, target, hlocate, hnil] at haim
        cases hparent : f.locate p.parent <;> simp [hparent, Except.map] at haim
      · have hnames : p.names = p.parent.names ++ [name] := by simp [Path.parent, hconcat]
        rw [aim_of_notFound hnames hlocate] at haim
        cases hparent : f.locate p.parent with
        | error e => simp [hparent, Except.map] at haim
        | ok above =>
          rw [hparent] at haim
          obtain ⟨rfl, rfl⟩ := Prod.mk.inj (Except.ok.inj haim)
          have hstep := step_of_notFound hnames hlocate hparent
          exact ⟨(step_eq_notFound_iff.1 hstep).2.2.2.symm,
            .inr ⟨above, name, hnames, rfl, rfl, rfl, hstep⟩⟩
    | _ => simp [aim, target, hlocate, Except.map] at haim

theorem aim_place {i? : Option Item} (haim : f.aim p = .ok (place, i?)) : place = f.placeOf p := by
  rcases (aim_eq_ok haim).2 with hlocate | ⟨above, name, hnames, rfl, -, hparent, hstep⟩
  · exact (locate_eq_ok hlocate).1
  · have hname := (step_eq_notFound_iff.1 hstep).2.1
    rw [placeOf, hnames, List.foldl_append, (locate_eq_ok hparent).1, List.foldl_cons,
      List.foldl_nil, nextPlace, if_pos hname]
    rfl

theorem ne_of_aim {i? : Option Item} {other : List String} (haim : f.aim p = .ok (place, i?))
    (hother : other ∉ f.trailOf p) : place ≠ other := by
  obtain rfl := aim_place haim
  exact ne_of_mem_of_not_mem foldl_mem_trail hother

/-! ## Putting an item where a path leads -/

/-- The path leads to the item, and nothing else has changed. -/
structure Puts (f : Files) (p : Path) (i : Item) (g : Files) : Prop where
  current : g.current = f.current
  locate : g.locate p = .ok (f.placeOf p)
  itemAt? : ∀ q, g.itemAt? q = if q = f.placeOf p then some i else f.itemAt? q

theorem Puts.itemAt?_placeOf (hputs : f.Puts p i g) : g.itemAt? (f.placeOf p) = some i := by
  rw [hputs.itemAt?, if_pos rfl]

theorem Puts.read (hputs : f.Puts p (.file content) g) : g.read p = .ok content :=
  read_eq_ok_iff.2 ⟨f.placeOf p, hputs.locate, hputs.itemAt?_placeOf⟩

/-- A new item, or a file in the place of a file. -/
theorem keeps_put (hplace : f.itemAt? place ≠ some .directory)
    (hfile : f.itemAt? place ≠ none → ∃ content, i = .file content) :
    f.Keeps (f.put place i.entry) where
  current := rfl
  directory {q} hq := by
    rw [itemAt?_put hplace, if_neg, hq]
    rintro ⟨rfl, -⟩
    exact hplace hq
  file {q content} hq := by
    rw [itemAt?_put hplace]
    split
    next heq =>
      obtain ⟨other, rfl⟩ := hfile (by simp [← heq.1, hq])
      exact ⟨other, rfl⟩
    next => exact ⟨content, hq⟩

/-- Where a path can be aimed at, it leads to what is put there. -/
theorem locate_of_aim {i? : Option Item} (haim : f.aim p = .ok (place, i?)) (hkeeps : f.Keeps g)
    (hplace : (g.itemAt? place).isSome) : g.locate p = .ok place := by
  rcases (aim_eq_ok haim).2 with hlocate | ⟨above, name, hnames, rfl, hlocate, hparent, hstep⟩
  · exact hkeeps.locate hlocate
  · obtain ⟨habove, hname, hlength, -⟩ := step_eq_notFound_iff.1 hstep
    have hshort : ¬ maxPathBytes < (Text.Utf8.encode p.text).length := by
      intro hlong
      simp [locate, hlong] at hlocate
    have hwalk : g.walk (g.start p.isAbsolute) p.parent.names = .ok above := by
      rw [start_congr hkeeps.current]
      exact hkeeps.walk (locate_eq_ok hparent).2
    have hnext : g.step above name = .ok (above ++ [name]) := step_eq_ok_iff.2
      ⟨by rw [nextPlace, if_pos hname], hkeeps.directory habove, fun _ => ⟨hlength, hplace⟩⟩
    rw [locate, if_neg hshort, hnames, walk_append, hwalk]
    simp only [walk, hnext]

/-- An item is put where a path aims, unless there is a directory. -/
theorem puts_of_aim {i? : Option Item} (hstart : f.StartsInDirectory p)
    (haim : f.aim p = .ok (place, i?)) (hdirectory : i? ≠ some .directory)
    (hfile : i? ≠ none → ∃ content, i = .file content) : f.Puts p i (f.put place i.entry) := by
  obtain ⟨rfl, hcases⟩ := aim_eq_ok haim
  have habove : f.itemAt? place.dropLast = some .directory := by
    rcases hcases with hlocate | ⟨above, name, -, rfl, -, -, hstep⟩
    · exact Entries.itemAt?_dropLast (isSome_of_locate hstart hlocate)
        (ne_nil_of_itemAt? hdirectory)
    · rw [List.dropLast_concat]
      exact (step_eq_notFound_iff.1 hstep).1
  have hput : ∀ q, (f.put place i.entry).itemAt? q =
      if q = place then some i else f.itemAt? q := by
    intro q
    rw [itemAt?_put hdirectory]
    simp only [habove, and_true]
  have hlocate : (f.put place i.entry).locate p = .ok place :=
    locate_of_aim haim (keeps_put hdirectory hfile) (by rw [hput, if_pos rfl]; rfl)
  obtain rfl := aim_place haim
  exact ⟨rfl, hlocate, hput⟩

/-- What changing a file does to what is there, and what it puts. -/
theorem update_eq_ok (hupdate : f.update p change = .ok g) :
    ∃ i? content, f.aim p = .ok (f.placeOf p, i?) ∧
      (i? = none ∧ content = [] ∨ i? = some (.file content)) ∧
      g = f.put (f.placeOf p) (Item.file (change content)).entry := by
  rw [update_eq] at hupdate
  cases haim : f.aim p with
  | error e => simp [haim] at hupdate
  | ok result =>
    obtain ⟨place, i?⟩ := result
    rw [haim] at hupdate
    rw [← aim_place haim]
    rcases i? with _ | ⟨content | _⟩
    · exact ⟨none, [], rfl, .inl ⟨rfl, rfl⟩, (Except.ok.inj hupdate).symm⟩
    · exact ⟨some (.file content), content, rfl, .inr rfl, (Except.ok.inj hupdate).symm⟩
    · cases hupdate

theorem makeDirectory_eq_ok (hmake : f.makeDirectory p = .ok g) :
    f.aim p = .ok (f.placeOf p, none) ∧ g = f.put (f.placeOf p) Item.directory.entry := by
  rw [makeDirectory_eq] at hmake
  cases haim : f.aim p with
  | error e => simp [haim] at hmake
  | ok result =>
    obtain ⟨place, i?⟩ := result
    rw [haim] at hmake
    rw [← aim_place haim]
    cases i? with
    | some old => cases hmake
    | none => exact ⟨rfl, (Except.ok.inj hmake).symm⟩

theorem keeps_of_update (hupdate : f.update p change = .ok g) : f.Keeps g := by
  obtain ⟨i?, content, haim, hold, rfl⟩ := update_eq_ok hupdate
  refine keeps_put ?_ fun _ => ⟨_, rfl⟩
  rw [← (aim_eq_ok haim).1]
  rcases hold with ⟨rfl, -⟩ | rfl <;> simp

/-- A file is changed where a path leads. -/
theorem puts_of_update (hstart : f.StartsInDirectory p) (hupdate : f.update p change = .ok g) :
    ∃ content, (f.itemAt? (f.placeOf p) = none ∧ content = [] ∨
        f.itemAt? (f.placeOf p) = some (.file content)) ∧
      f.Puts p (.file (change content)) g := by
  obtain ⟨i?, content, haim, hold, rfl⟩ := update_eq_ok hupdate
  rw [← (aim_eq_ok haim).1]
  refine ⟨content, hold, puts_of_aim hstart haim ?_ fun _ => ⟨_, rfl⟩⟩
  rcases hold with ⟨rfl, -⟩ | rfl <;> simp

theorem puts_of_makeDirectory (hstart : f.StartsInDirectory p)
    (hmake : f.makeDirectory p = .ok g) :
    f.itemAt? (f.placeOf p) = none ∧ f.Puts p .directory g := by
  obtain ⟨haim, rfl⟩ := makeDirectory_eq_ok hmake
  exact ⟨(aim_eq_ok haim).1.symm, puts_of_aim hstart haim nofun nofun⟩

/-- A file that can be read can be changed. -/
theorem exists_puts_of_read (hstart : f.StartsInDirectory p) (hread : f.read p = .ok content)
    (change : List UInt8 → List UInt8) :
    ∃ g, f.update p change = .ok g ∧ f.Puts p (.file (change content)) g := by
  obtain ⟨place, hlocate, hitem⟩ := read_eq_ok_iff.1 hread
  have hupdate : f.update p change = .ok (f.put place (Item.file (change content)).entry) := by
    rw [update_eq, aim_of_locate hlocate, hitem]
  obtain ⟨old, hold, hputs⟩ := puts_of_update hstart hupdate
  obtain ⟨rfl, -⟩ := locate_eq_ok hlocate
  obtain rfl : content = old := by simpa [hitem] using hold
  exact ⟨_, hupdate, hputs⟩

/-! ## Making directories -/

/-- Directories have been added at some places, and nothing else has changed. -/
structure Adds (places : List (List String)) (f g : Files) : Prop where
  current : g.current = f.current
  itemAt? : ∀ q, g.itemAt? q = f.itemAt? q ∨
    q ∈ places ∧ f.itemAt? q = none ∧ g.itemAt? q = some .directory

theorem Adds.refl (places : List (List String)) (f : Files) : f.Adds places f :=
  ⟨rfl, fun _ => .inl rfl⟩

theorem Adds.mono (hadds : f.Adds places g) (hsubset : places ⊆ more) : f.Adds more g :=
  ⟨hadds.current, fun q => (hadds.itemAt? q).imp_right (And.imp_left (hsubset ·))⟩

theorem Adds.trans (h₁ : f.Adds places g) (h₂ : g.Adds places h) : f.Adds places h where
  current := h₂.current.trans h₁.current
  itemAt? q := by
    rcases h₁.itemAt? q with h₁ | ⟨hq, hnone, hdirectory⟩
    · rw [← h₁]
      exact h₂.itemAt? q
    · rcases h₂.itemAt? q with h₂ | ⟨-, hnone', -⟩
      · exact .inr ⟨hq, hnone, h₂.trans hdirectory⟩
      · simp [hdirectory] at hnone'

theorem Adds.itemAt?_of_isSome (hadds : f.Adds places g) (hplace : (f.itemAt? place).isSome) :
    g.itemAt? place = f.itemAt? place := by
  rcases hadds.itemAt? place with hsame | ⟨-, hnone, -⟩
  · exact hsame
  · simp [hnone] at hplace

theorem Adds.keeps (hadds : f.Adds places g) : f.Keeps g where
  current := hadds.current
  directory hplace := (hadds.itemAt?_of_isSome (by rw [hplace]; rfl)).trans hplace
  file hplace := ⟨_, (hadds.itemAt?_of_isSome (by rw [hplace]; rfl)).trans hplace⟩

theorem adds_of_makeDirectory (hmake : f.makeDirectory p = .ok g) : f.Adds (f.trailOf p) g := by
  obtain ⟨haim, rfl⟩ := makeDirectory_eq_ok hmake
  have hnone := (aim_eq_ok haim).1.symm
  refine ⟨rfl, fun q => ?_⟩
  rw [itemAt?_put (by simp [hnone])]
  split
  next heq =>
    obtain ⟨rfl, -⟩ := heq
    exact .inr ⟨foldl_mem_trail, hnone, rfl⟩
  next => exact .inl rfl

theorem ensureDirectory_eq_ok (hensure : f.ensureDirectory p = .ok g) :
    f.makeDirectory p = .ok g ∨ g = f ∧ f.isDirectory p = true := by
  rw [ensureDirectory] at hensure
  cases hmake : f.makeDirectory p with
  | ok made =>
    simp only [hmake] at hensure
    exact .inl (congrArg _ (Except.ok.inj hensure))
  | error e =>
    simp only [hmake] at hensure
    split at hensure
    next hdirectory => exact .inr ⟨(Except.ok.inj hensure).symm, hdirectory⟩
    next => cases hensure

theorem adds_of_ensureDirectory (hensure : f.ensureDirectory p = .ok g) :
    f.Adds (f.trailOf p) g := by
  rcases ensureDirectory_eq_ok hensure with hmake | ⟨rfl, -⟩
  · exact adds_of_makeDirectory hmake
  · exact .refl _ g

theorem isDirectory_of_ensureDirectory (hstart : f.StartsInDirectory p)
    (hensure : f.ensureDirectory p = .ok g) : g.isDirectory p = true := by
  rcases ensureDirectory_eq_ok hensure with hmake | ⟨rfl, hdirectory⟩
  · have hputs := (puts_of_makeDirectory hstart hmake).2
    have hlater := (adds_of_makeDirectory hmake).keeps.startsInDirectory hstart
    exact (isDirectory_iff hlater).2 ⟨_, hputs.locate, hputs.itemAt?_placeOf⟩
  · exact hdirectory

/-- The last of the directories is made after those above it. -/
theorem ensureAll_cons_eq_ok {root name : String} {above : List String}
    (hensure : f.ensureAll root (name :: above) = .ok g) :
    ∃ mid, (mid = f ∨ f.ensureAll root above = .ok mid) ∧
      mid.ensureDirectory ⟨root, (name :: above).reverse⟩ = .ok g := by
  rw [ensureAll] at hensure
  split at hensure
  · cases habove : f.ensureAll root above with
    | error fault => simp [habove] at hensure
    | ok mid =>
      simp only [habove] at hensure
      exact ⟨mid, .inr rfl, hensure⟩
  · exact ⟨f, .inl rfl, hensure⟩

theorem adds_of_ensureAll {root : String} (hensure : f.ensureAll root names = .ok g) :
    f.Adds (f.trailOf ⟨root, names.reverse⟩) g := by
  induction names generalizing g with
  | nil => exact adds_of_ensureDirectory hensure
  | cons name above ih =>
    obtain ⟨mid, hmid, hlast⟩ := ensureAll_cons_eq_ok hensure
    have hfirst : f.Adds (f.trailOf ⟨root, (name :: above).reverse⟩) mid := by
      rcases hmid with rfl | habove
      · exact .refl _ mid
      · refine (ih habove).mono ?_
        rw [List.reverse_cons]
        exact trail_subset_append [name]
    have hsecond := adds_of_ensureDirectory hlast
    rw [trailOf_congr hfirst.current] at hsecond
    exact hfirst.trans hsecond

theorem isDirectory_of_ensureAll {root : String}
    (hstart : f.StartsInDirectory ⟨root, names.reverse⟩)
    (hensure : f.ensureAll root names = .ok g) :
    g.isDirectory ⟨root, names.reverse⟩ = true := by
  cases names with
  | nil => exact isDirectory_of_ensureDirectory hstart hensure
  | cons name above =>
    obtain ⟨mid, hmid, hlast⟩ := ensureAll_cons_eq_ok hensure
    refine isDirectory_of_ensureDirectory ?_ hlast
    rcases hmid with rfl | habove
    · exact hstart
    · exact (adds_of_ensureAll habove).keeps.startsInDirectory hstart

theorem makeDirectory_of_locate (hlocate : f.locate p = .ok place)
    (hitem : f.itemAt? place = some i) : f.makeDirectory p = .error .alreadyExists := by
  rw [makeDirectory_eq, aim_of_locate hlocate, hitem]

/-- Where something is there already, nothing above it is made. -/
theorem ensureDirectories_of_locate (hlocate : f.locate p = .ok place)
    (hitem : f.itemAt? place = some i) :
    f.ensureDirectories p = if f.isDirectory p then .ok f else .error ⟨.alreadyExists, p.text⟩ := by
  have hall {root : String} {names : List String}
      (hmake : f.makeDirectory ⟨root, names.reverse⟩ = .error .alreadyExists) :
      f.ensureAll root names = f.ensureDirectory ⟨root, names.reverse⟩ := by
    cases names with
    | nil => rfl
    | cons name above => rw [ensureAll, hmake]
  have hmake := makeDirectory_of_locate hlocate hitem
  rw [ensureDirectories, hall (by rwa [List.reverse_reverse]), List.reverse_reverse,
    ensureDirectory, hmake]

/-- Making a directory adds it and what is missing above it. -/
theorem adds_of_ensureDirectories (hensure : f.ensureDirectories p = .ok g) :
    f.Adds (f.trailOf p) g := by
  have hadds := adds_of_ensureAll hensure
  rwa [List.reverse_reverse] at hadds

theorem isDirectory_of_ensureDirectories (hstart : f.StartsInDirectory p)
    (hensure : f.ensureDirectories p = .ok g) : g.isDirectory p = true := by
  have hdirectory := @isDirectory_of_ensureAll f g p.names.reverse p.root hstart hensure
  rwa [List.reverse_reverse] at hdirectory

/-- Nothing is made where there is a directory. -/
theorem ensureDirectories_of_isDirectory (hstart : f.StartsInDirectory p)
    (hdirectory : f.isDirectory p = true) : f.ensureDirectories p = .ok f := by
  obtain ⟨place, hlocate, hitem⟩ := (isDirectory_iff hstart).1 hdirectory
  rw [ensureDirectories_of_locate hlocate hitem, if_pos hdirectory]

/-- No directory can be made where there is a file. -/
theorem ensureDirectories_of_read (hread : f.read p = .ok content) :
    f.ensureDirectories p = .error ⟨.alreadyExists, p.text⟩ := by
  obtain ⟨place, hlocate, hitem⟩ := read_eq_ok_iff.1 hread
  have hdirectory : ¬ f.isDirectory p = true := by simp [isDirectory_eq, hlocate, hitem]
  rw [ensureDirectories_of_locate hlocate hitem, if_neg hdirectory]

end CaretQuery.Files
