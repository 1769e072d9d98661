import CaretQuery.Proofs.Files.Differing
import CaretQuery.Proofs.Log.Delivery

/-! # Journals whose files differ at one place

Two journals that are the same but for what is at one place of their files, with
log files whose paths lead elsewhere. Configuring and records keep it so.
-/
namespace CaretQuery.Log.Journal

open CommandLine (Alike)
open Files (IsPathName)

variable {f g : Files} {j k : Journal} {place : List String} {path : Path} {settings : Settings}

theorem openFile_alike (h : f.DiffersAt place g) (hnames : ∀ name ∈ path.names, IsPathName name)
    (hplace : place ∉ f.trailOf path) :
    Alike (Files.DiffersAt place) (openFile f path) (openFile g path) := by
  have hensure := h.ensureDirectories_alike fun hmem => hplace (Files.trailOf_parent_subset hmem)
  rw [openFile, openFile]
  cases hf : f.ensureDirectories path.parent <;> cases hg : g.ensureDirectories path.parent <;>
    rw [hf, hg] at hensure <;> cases hensure
  · exact .error _
  next made other hmade =>
    have hplace : place ∉ made.trailOf path := by
      rwa [Files.trailOf_congr (Files.adds_of_ensureDirectories hf).current]
    dsimp only
    rw [Files.absolute_congr hmade.current]
    exact hmade.update_alike
      (Files.notMem_trailOf_absolute hmade.placed hnames hplace hmade.left) _

/-- Two journals are the same but for a place to which no log file leads. -/
structure DiffersAt (place : List String) (j k : Journal) : Prop where
  same : k = { j with files := k.files }
  files : j.files.DiffersAt place k.files
  sinks : ∀ handler ∈ j.logger.handlers, ∀ path, handler.sink = .file path →
    place ∉ j.files.trailOf path

namespace DiffersAt

theorem stderr_eq (h : j.DiffersAt place k) : k.stderr = j.stderr := by
  rw [h.same]

theorem logger_eq (h : j.DiffersAt place k) : k.logger = j.logger := by
  rw [h.same]

theorem install (h : j.DiffersAt place k) (level : Level) {sinks : List (Level × Sink)}
    (hsinks : ∀ entry ∈ sinks, ∀ path, entry.2 = .file path → place ∉ j.files.trailOf path) :
    (j.install level sinks).DiffersAt place (k.install level sinks) where
  same := by
    rw [h.same]
    rfl
  files := h.files
  sinks := by
    intro handler hhandler path hpath
    obtain ⟨i, hi, rfl⟩ := List.mem_mapIdx.1 hhandler
    exact hsinks _ (List.getElem_mem hi) path hpath

/-- Other texts on standard error, the same for both. -/
theorem withStderr (h : j.DiffersAt place k) (stderr : List String) :
    DiffersAt place { j with stderr } { k with stderr } :=
  ⟨by rw [h.same], h.files, h.sinks⟩

theorem configure (h : j.DiffersAt place k)
    (htarget : ∀ path ∈ settings.target,
      (∀ name ∈ path.names, IsPathName name) ∧ place ∉ j.files.trailOf path) :
    (j.configure settings).DiffersAt place (k.configure settings) := by
  have hstderr {j k : Journal} (h : j.DiffersAt place k) (level : Level) :
      (j.install level [(level, .stderr)]).DiffersAt place (k.install level [(level, .stderr)]) :=
    h.install level (by simp)
  rw [Journal.configure, Journal.configure]
  cases hpath : settings.target with
  | none => exact hstderr h _
  | some path =>
    obtain ⟨hnames, hplace⟩ := htarget path hpath
    have hopen := openFile_alike h.files hnames hplace
    dsimp only
    cases hf : openFile j.files path <;> cases hg : openFile k.files path <;>
      rw [hf, hg] at hopen <;> cases hopen
    next fault =>
      rw [h.stderr_eq]
      exact hstderr (h.withStderr _) _
    next opened other hopened =>
      have hopening := (openFile_eq_ok hf).1
      have hplace : place ∉ opened.trailOf path := by
        rwa [Files.trailOf_congr hopening.current]
      have hsink := Files.notMem_trailOf_absolute hopened.placed hnames hplace hopened.left
      have hlater : DiffersAt place { j with files := opened } { k with files := other } :=
        ⟨by rw [h.same], hopened, fun handler hhandler path hpath => by
          rw [Files.trailOf_congr hopening.current]
          exact h.sinks handler hhandler path hpath⟩
      dsimp only
      rw [Files.absolute_congr hopened.current]
      refine hlater.install _ fun entry hentry path hpath => ?_
      simp only [List.mem_cons, List.not_mem_nil, or_false] at hentry
      rcases hentry with rfl | rfl
      · cases hpath
      · cases hpath
        exact hsink

theorem deliver (h : j.DiffersAt place k) (r : Record) {sink : Sink}
    (hsink : ∀ path, sink = .file path → place ∉ j.files.trailOf path) :
    (Journal.deliver r j sink).DiffersAt place (Journal.deliver r k sink) := by
  have hclock : k.clock = j.clock := by rw [h.same]
  cases sink with
  | stderr =>
    rw [Journal.deliver, Journal.deliver, h.stderr_eq]
    exact h.withStderr _
  | elsewhere => exact h
  | file path =>
    have happend := h.files.update_alike (hsink path rfl)
      (· ++ fileLine j.clock r)
    have hkeeps := keeps_deliver r j (.file path)
    rw [Journal.deliver] at hkeeps
    rw [Journal.deliver, Journal.deliver, hclock]
    dsimp only at hkeeps ⊢
    refine ⟨by rw [h.same], ?_, fun handler hhandler path hpath => ?_⟩
    · rw [Files.append, Files.append]
      generalize j.files.update path _ = x at happend
      generalize k.files.update path _ = y at happend
      cases happend with
      | error e => exact h.files
      | ok hfiles => exact hfiles
    · rw [Files.trailOf_congr hkeeps.current]
      exact h.sinks handler hhandler path hpath

theorem log (h : j.DiffersAt place k) (r : Record) :
    (j.log r).DiffersAt place (k.log r) := by
  have hsinks : ∀ sink ∈ sinksFor j.logger r, ∀ path, sink = .file path →
      place ∉ j.files.trailOf path := by
    intro sink hsink path hpath
    rw [sinksFor] at hsink
    split at hsink
    · obtain ⟨handler, hhandler, rfl⟩ := List.mem_map.1 hsink
      exact h.sinks handler (List.mem_filter.1 hhandler).1 path hpath
    · simp at hsink
  rw [Journal.log, Journal.log, h.logger_eq]
  generalize sinksFor j.logger r = sinks at hsinks
  induction sinks generalizing j k with
  | nil => exact h
  | cons sink sinks ih =>
    rw [List.forall_mem_cons] at hsinks
    refine ih (h.deliver r hsinks.1) fun other hother path hpath => ?_
    rw [Files.trailOf_congr (keeps_deliver r j sink).current]
    exact hsinks.2 other hother path hpath

end DiffersAt
end CaretQuery.Log.Journal
