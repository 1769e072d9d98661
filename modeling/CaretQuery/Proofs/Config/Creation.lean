import CaretQuery.Proofs.Config.Loading
import CaretQuery.Proofs.Files.Changing

/-! # Where a configuration can be created

A configuration file can be created where the directories above it are there or
can be made and nothing but a file is in its place. Making the directories may
bring the file within reach, when its path leads down into one of them and up
again; otherwise the file is there afterwards only if it was there before. What
is written at first is loaded as the built-in operators.
-/
namespace CaretQuery

namespace Files

variable {s made written : Files} {p : Path} {content : List UInt8} {present : Bool}

/-- The directories above a path are there or can be made, and then a file can be written. -/
def CanHold (files : Files) (p : Path) : Prop :=
  ∃ made, files.ensureDirectories p.parent = .ok made ∧ ∃ written, made.write p [] = .ok written

/-- The directories above a path are there, and no directory is in the place of a file. -/
structure IsReady (p : Path) (made : Files) : Prop where
  start : made.StartsInDirectory p
  parent : made.isDirectory p.parent = true
  aim : ∃ i?, made.aim p = .ok (made.placeOf p, i?) ∧ i? ≠ some .directory

namespace IsReady

theorem itemAt?_ne_directory (h : made.IsReady p) :
    made.itemAt? (made.placeOf p) ≠ some .directory := by
  obtain ⟨i?, haim, hitem⟩ := h.aim
  rwa [← (aim_eq_ok haim).1]

theorem names_ne_nil (h : made.IsReady p) : p.names ≠ [] := by
  intro hnil
  refine h.itemAt?_ne_directory ?_
  rw [placeOf, hnil]
  exact h.start

/-- Whether something is at the path can be told. -/
theorem exists_isPresent (h : made.IsReady p) : ∃ present, made.isPresent p = .ok present := by
  obtain ⟨i?, haim, -⟩ := h.aim
  rcases (aim_eq_ok haim).2 with hlocate | ⟨above, name, -, -, hlocate, -, -⟩
  · exact ⟨true, isPresent_eq_true_iff.2 ⟨_, hlocate⟩⟩
  · exact ⟨false, isPresent_eq_false_iff.2 ⟨_, hlocate, nofun⟩⟩

theorem ensureDirectories (h : made.IsReady p) : made.ensureDirectories p.parent = .ok made :=
  ensureDirectories_of_isDirectory h.start h.parent

/-- A file can be written. -/
theorem exists_write (h : made.IsReady p) (content : List UInt8) :
    ∃ written, made.write p content = .ok written ∧ made.Puts p (.file content) written := by
  obtain ⟨i?, haim, hitem⟩ := h.aim
  have hwrite : made.write p content =
      .ok (made.put (made.placeOf p) (Item.file content).entry) := by
    rw [write, update_eq, haim]
    rcases i? with _ | ⟨old | _⟩
    · rfl
    · rfl
    · exact absurd rfl hitem
  obtain ⟨old, -, hputs⟩ := puts_of_update h.start hwrite
  exact ⟨_, hwrite, hputs⟩

theorem of_write (h : made.IsReady p) (hwrite : made.write p content = .ok written) :
    written.IsReady p := by
  have hkeeps := keeps_of_update hwrite
  obtain ⟨-, -, hputs⟩ := puts_of_update h.start hwrite
  obtain ⟨place, hlocate, hitem⟩ := (isDirectory_iff h.start.parent).1 h.parent
  have hstart := hkeeps.startsInDirectory h.start
  refine ⟨hstart,
    (isDirectory_iff hstart.parent).2 ⟨place, hkeeps.locate hlocate, hkeeps.directory hitem⟩,
    some (.file content), ?_, nofun⟩
  rw [placeOf_congr hkeeps.current, aim_of_locate hputs.locate, hputs.itemAt?_placeOf]

theorem canHold (h : made.IsReady p) : made.CanHold p := by
  obtain ⟨written, hwrite, -⟩ := h.exists_write []
  exact ⟨made, h.ensureDirectories, written, hwrite⟩

end IsReady

/-! ## Making the directories -/

/-- Making the directories above a path. It tells whether something is at the path before and
afterwards. -/
structure Prepares (s : Files) (p : Path) (earlier present : Bool) (made : Files) : Prop where
  ensureDirectories : s.ensureDirectories p.parent = .ok made
  adds : s.Adds (s.trailOf p.parent) made
  isPresent_before : s.isPresent p = .ok earlier
  isPresent_after : made.isPresent p = .ok present
  unchanged : earlier = true → made = s
  without_dots : ".." ∉ p.names → present = earlier

/-- The place is free or that of a file from the beginning. -/
theorem Prepares.itemAt?_ne_directory {earlier : Bool} (h : s.Prepares p earlier present made)
    (hready : made.IsReady p) : s.itemAt? (s.placeOf p) ≠ some .directory := by
  intro hdirectory
  refine hready.itemAt?_ne_directory ?_
  rw [placeOf_congr h.adds.current]
  exact h.adds.keeps.directory hdirectory

/-- Where something is at a path there is a directory above it. -/
theorem isDirectory_parent (hready : made.IsReady p) (hstart : s.StartsInDirectory p)
    (hpresent : s.isPresent p = .ok true) :
    s.isDirectory p.parent = true := by
  obtain ⟨place, hlocate⟩ := isPresent_eq_true_iff.1 hpresent
  obtain ⟨parent, hparent, -⟩ := (isDirectory_iff hready.start.parent).1 hready.parent
  have hnames : p.names = p.parent.names ++ [p.names.getLast hready.names_ne_nil] :=
    (List.dropLast_append_getLast hready.names_ne_nil).symm
  have hwalk := (locate_eq_ok hlocate).2
  rw [hnames] at hwalk
  obtain ⟨mid, habove, hlast⟩ := walk_of_append hwalk
  obtain ⟨next, hstep, -⟩ := walk_cons_eq_ok.1 hlast
  have hmid : s.itemAt? mid = some .directory := (step_eq_ok_iff.1 hstep).2.1
  have hshort : ¬ maxPathBytes < (Text.Utf8.encode p.parent.text).length := by
    intro hlong
    simp [locate, hlong] at hparent
  refine (isDirectory_iff hstart.parent).2 ⟨mid, ?_, hmid⟩
  rw [locate, if_neg hshort]
  exact habove

/-- Without double dots nothing comes within reach. -/
theorem isPresent_eq_of_adds (hready : made.IsReady p) (hadds : s.Adds (s.trailOf p.parent) made)
    (hdots : ".." ∉ p.names) (hpresent : made.isPresent p = .ok true) :
    s.isPresent p = .ok true := by
  obtain ⟨place, hlocate⟩ := isPresent_eq_true_iff.1 hpresent
  obtain rfl := (locate_eq_ok hlocate).1
  have hsome := isSome_of_locate hready.start hlocate
  have hplace : made.placeOf p = s.placeOf p := placeOf_congr hadds.current p
  have hsame : made.itemAt? (s.placeOf p) = s.itemAt? (s.placeOf p) := by
    rcases hadds.itemAt? (s.placeOf p) with hsame | ⟨-, -, hdirectory⟩
    · exact hsame
    · exact absurd (hplace ▸ hdirectory) hready.itemAt?_ne_directory
  rw [hplace, hsame] at hsome
  have htrail : ∀ q ∈ s.trailOf p, s.itemAt? q = made.itemAt? q := by
    intro q hq
    refine (hadds.itemAt?_of_isSome ?_).symm
    rcases eq_or_directory_of_prefix (prefix_of_mem_trail hdots q hq) hsome with rfl | hdirectory
    · exact hsome
    · rw [hdirectory]
      rfl
  rw [isPresent_eq_true_iff, locate_congr hadds.current htrail]
  exact ⟨_, hlocate⟩

/-- The directories above a path can be made where it can hold a file. -/
theorem CanHold.exists_prepares (hhold : s.CanHold p) (hstart : s.StartsInDirectory p) :
    ∃ earlier present made, s.Prepares p earlier present made ∧ made.IsReady p := by
  obtain ⟨made, hensure, written, hwrite⟩ := hhold
  have hadds := adds_of_ensureDirectories hensure
  have hready : made.IsReady p := by
    obtain ⟨i?, content, haim, hold, -⟩ := update_eq_ok hwrite
    refine ⟨hadds.keeps.startsInDirectory hstart,
      isDirectory_of_ensureDirectories hstart hensure, i?, haim, ?_⟩
    rcases hold with ⟨rfl, -⟩ | rfl <;> simp
  obtain ⟨present, hpresent⟩ := hready.exists_isPresent
  have hsame (hearlier : s.isPresent p = .ok true) : made = s := by
    have hdirectory := isDirectory_parent hready hstart hearlier
    rw [ensureDirectories_of_isDirectory hstart.parent hdirectory] at hensure
    exact (Except.ok.inj hensure).symm
  have hmissing : s.isPresent p ≠ .ok true → s.isPresent p = .ok false := by
    intro hearlier
    cases hlocate : s.locate p with
    | ok place => exact absurd (isPresent_eq_true_iff.2 ⟨place, hlocate⟩) hearlier
    | error e =>
      refine isPresent_eq_false_iff.2 ⟨e, hlocate, ?_⟩
      rintro rfl
      -- The name would still be too long for the file that is written.
      obtain ⟨i?, haim, -⟩ := hready.aim
      have hlong := hadds.keeps.locate_nameTooLong hlocate
      rcases (aim_eq_ok haim).2 with hlater | ⟨-, -, -, -, hlater, -, -⟩ <;>
        simp [hlong] at hlater
  by_cases hearlier : s.isPresent p = .ok true
  · obtain rfl := hsame hearlier
    exact ⟨true, true, made,
      ⟨hensure, hadds, hearlier, hearlier, fun _ => rfl, fun _ => rfl⟩, hready⟩
  · refine ⟨false, present, made, ⟨hensure, hadds, hmissing hearlier, hpresent, nofun, ?_⟩, hready⟩
    intro hdots
    by_contra hne
    rw [Bool.not_eq_false] at hne
    exact hearlier (isPresent_eq_of_adds hready hadds hdots (hne ▸ hpresent))

end Files

/-! ## The template -/

namespace Config

variable {files : Files} {path : Path}

set_option maxRecDepth 2000 in
/-- The template gives an operators section that replaces nothing. -/
theorem read_template :
    Toml.read template.toList = .ok [("operators", .table [("replace", .bool false)])] := by
  unfold template
  simp only [String.toList_append]
  cbv

theorem tableOfContent_encode {text : String} {document : List (String × Node)}
    (hread : Toml.read text.toList = .ok document) :
    tableOfContent (Text.Utf8.encode text) = (tableOfDocument document).mapError .config := by
  rw [tableOfContent, Text.Utf8.decode_encode]
  simp only [hread]

theorem tableOfContent_template :
    tableOfContent (Text.Utf8.encode template) = .ok (some .builtin) := by
  rw [tableOfContent_encode read_template]
  rfl

/-- A new configuration is loaded as the built-in operators. -/
theorem load_template (hpresent : files.isPresent path = .ok true)
    (hread : files.read path = .ok (Text.Utf8.encode template)) :
    load files path = .ok ⟨path, true, some .builtin⟩ := by
  rw [load_of_content hpresent hread, tableOfContent_template]
  rfl

end Config
end CaretQuery
