import CaretQuery.Proofs.Files.Changing
import CaretQuery.Proofs.Log.Agreement

/-! # What reaches a log file

Under a configuration with a log file every record from the level of debugging
on is added to the file, in order, as far as it can be encoded, and the verbosity
says which ones are shown on standard error as well. Configurations that were in
force in between change nothing about this: the file is still there when they
have been restored, since no action takes a file away.
-/
namespace CaretQuery.Log

variable {verbosity : Int} {r : Record} {path : Path} {settings : Settings} {opened : Files}

/-! ## Records -/

/-- The records of an action that leaves the loggers alone: a record itself, and that of a query
that has been built. -/
def Action.records : Action → List Record
  | .record r => [r]
  | .build request =>
    match request.build with
    | .error _ => []
    | .ok query => [ofQuery query]
  | .configure _ | .restore | .restoreAgain => []

/-- Warnings are always shown, less severe records from a verbosity of one or two on. -/
def Record.IsShown (verbosity : Int) (r : Record) : Prop :=
  verbosity ≤ 0 ∧ .warning ≤ r.level ∨ verbosity = 1 ∧ .info ≤ r.level ∨
    2 ≤ verbosity ∧ .debug ≤ r.level

instance : Decidable (r.IsShown verbosity) := inferInstanceAs (Decidable (_ ∨ _ ∨ _))

/-- The line of a text in a log file. -/
def lineOf (clock text : String) : List UInt8 := Text.Utf8.encode (clock ++ " " ++ text ++ "\n")

/-- What the texts of some records add to a log file: a line each, in order. One that cannot be
encoded may be lost. -/
inductive Gains (clock : String) : List String → List UInt8 → Prop
  | nil : Gains clock [] []
  | line (text : String) {texts : List String} {gained : List UInt8}
      (h : Gains clock texts gained) :
      Gains clock (text :: texts) (lineOf clock text ++ gained)
  | lost {text : String} {texts : List String} {gained : List UInt8}
      (htext : Text.isEncodable text = false) (h : Gains clock texts gained) :
      Gains clock (text :: texts) gained

/-- The texts of the records that are severe enough for a log file. -/
def fileTexts (records : List Record) : List String :=
  (records.filter fun r => .debug ≤ r.level).map Record.text

/-- What some records show on standard error. -/
def shownTexts (verbosity : Int) (records : List Record) : List String :=
  (records.filter fun r => r.IsShown verbosity).map Record.text

theorem levelFor_le_iff : levelFor verbosity ≤ r.level ↔ r.IsShown verbosity := by
  rw [levelFor, Record.IsShown]
  split
  · grind
  · split <;> grind

/-- What is shown is severe enough for the log file. -/
theorem debug_le_of_isShown (hshown : r.IsShown verbosity) : .debug ≤ r.level :=
  Int.le_trans (debug_le_levelFor verbosity) (levelFor_le_iff.2 hshown)

/-- The queries that have been built out of the attempts. -/
def built (requests : List QueryRequest) : List Query :=
  requests.filterMap fun request => request.build.toOption

theorem records_build (requests : List QueryRequest) :
    (requests.map Action.build).flatMap Action.records = (built requests).map ofQuery := by
  induction requests with
  | nil => rfl
  | cons request requests ih =>
    rw [List.map_cons, List.flatMap_cons, ih, built, built, List.filterMap_cons, Action.records]
    cases request.build <;> rfl

theorem text_ofQuery (q : Query) :
    (ofQuery q).text = "DEBUG nowquery.query: built " ++ q.mode.name ++ " query: " ++ q.text := by
  have hheading : Level.debug.name ++ " " ++ (rootLogger ++ ".query") ++ ": " ++ "built " =
      "DEBUG nowquery.query: built " := by decide
  simp only [ofQuery, Record.text, ← hheading, String.append_assoc]

theorem isShown_ofQuery (q : Query) : (ofQuery q).IsShown verbosity ↔ 2 ≤ verbosity := by
  have hwarning : ¬ Level.warning ≤ Level.debug := by decide
  have hinfo : ¬ Level.info ≤ Level.debug := by decide
  simp [Record.IsShown, ofQuery, hwarning, hinfo, Level.le_refl]

theorem isEncodable_text_ofQuery (q : Query) :
    Text.isEncodable (ofQuery q).text = Text.isEncodable q.text := by
  have hheading : Text.isEncodable "DEBUG nowquery.query: built " = true := by decide
  have hmiddle : Text.isEncodable " query: " = true := by decide
  have hmode : Text.isEncodable q.mode.name = true := by cases q.mode <;> decide
  rw [text_ofQuery]
  simp [hheading, hmiddle, hmode]

theorem fileTexts_ofQuery (queries : List Query) :
    fileTexts (queries.map ofQuery) = queries.map fun q => (ofQuery q).text := by
  rw [fileTexts, List.filter_eq_self.2, List.map_map]
  · rfl
  · simp [ofQuery, Level.le_refl]

/-- Nothing is lost of texts that can be encoded. -/
theorem Gains.eq_flatMap {clock : String} {texts : List String} {gained : List UInt8}
    (h : Gains clock texts gained) (htexts : ∀ text ∈ texts, Text.isEncodable text = true) :
    gained = texts.flatMap (lineOf clock) := by
  induction h with
  | nil => rfl
  | line text h ih =>
    rw [ih fun other hother => htexts other (List.mem_cons_of_mem text hother), List.flatMap_cons]
  | lost htext h ih =>
    cases htext.symm.trans (htexts _ List.mem_cons_self)

theorem shownTexts_ofQuery (queries : List Query) :
    shownTexts verbosity (queries.map ofQuery) =
      if 2 ≤ verbosity then queries.map fun q => (ofQuery q).text else [] := by
  rw [shownTexts]
  split
  next hverbosity =>
    rw [List.filter_eq_self.2, List.map_map]
    · rfl
    · simpa [isShown_ofQuery] using fun _ _ => hverbosity
  next hverbosity =>
    rw [List.filter_eq_nil_iff.2, List.map_nil]
    simpa [isShown_ofQuery] using fun _ _ => hverbosity

namespace Journal

variable {j : Journal} {file : Path} {content : List UInt8} {clock : String}

/-! ## The log file -/

/-- An opened log file can be read, and nothing has been taken away for it. -/
theorem openFile_eq_ok {files : Files} (hopen : openFile files path = .ok opened) :
    files.Keeps opened ∧ ∃ content, opened.read (opened.absolute path) = .ok content := by
  rw [openFile] at hopen
  cases hensure : files.ensureDirectories path.parent with
  | error fault => simp [hensure] at hopen
  | ok made =>
    simp only [hensure] at hopen
    have hkeeps := Files.keeps_of_update hopen
    obtain ⟨content, -, hputs⟩ := Files.puts_of_update
      (Files.startsInDirectory_of_isAbsolute (made.isAbsolute_absolute path)) hopen
    rw [Files.absolute_congr hkeeps.current]
    exact ⟨(Files.adds_of_ensureDirectories hensure).keeps.trans hkeeps, _, hputs.read⟩

/-- A journal that writes to a log file and to standard error. -/
structure WritesTo (clock : String) (verbosity : Int) (file : Path) (content : List UInt8)
    (j : Journal) : Prop where
  clock : j.clock = clock
  sinks : ∀ r, sinksFor j.logger r =
    (if r.IsShown verbosity then [.stderr] else []) ++
      if .debug ≤ r.level then [.file file] else []
  isAbsolute : file.isAbsolute
  read : j.files.read file = .ok content

theorem sinksFor_configure (htarget : settings.target = some path)
    (hopen : openFile j.files path = .ok opened) (r : Record) :
    sinksFor (j.configure settings).logger r =
      (if r.IsShown settings.verbosity then [.stderr] else []) ++
        if .debug ≤ r.level then [.file (opened.absolute path)] else [] := by
  simp only [← levelFor_le_iff]
  rw [configure, htarget]
  simp only [hopen, levelFor_min_debug]
  by_cases hdebug : .debug ≤ r.level
  · by_cases hlevel : levelFor settings.verbosity ≤ r.level <;>
      simp [sinksFor, install, LoggerState.threshold, hdebug, hlevel]
  · have hlevel : ¬ levelFor settings.verbosity ≤ r.level := fun hlevel =>
      hdebug (Int.le_trans (debug_le_levelFor _) hlevel)
    simp [sinksFor, install, LoggerState.threshold, hdebug, hlevel]

/-- A record is added to the file and shown, as far as it is severe enough. -/
theorem WritesTo.log (h : j.WritesTo clock verbosity file content) (r : Record) :
    (j.log r).WritesTo clock verbosity file
        (content ++ if .debug ≤ r.level then fileLine clock r else []) ∧
      (j.log r).stderr = j.stderr ++ if r.IsShown verbosity then [r.text] else [] := by
  have hlogger := (returnsTo_log j r).logger
  obtain ⟨g, happend, hputs⟩ := Files.exists_puts_of_read
    (Files.startsInDirectory_of_isAbsolute h.isAbsolute) h.read (· ++ fileLine clock r)
  have hfile (stderr : List String) :
      deliver r { j with stderr } (.file file) = { j with stderr, files := g } := by
    have happend : j.files.append file (fileLine j.clock r) = .ok g := by
      rw [h.clock]
      exact happend
    rw [deliver, happend]
    rfl
  by_cases hdebug : .debug ≤ r.level
  · have hlog : j.log r =
        { j with
          stderr := j.stderr ++ if r.IsShown verbosity then [r.text] else []
          files := g } := by
      rw [Journal.log, h.sinks, if_pos hdebug]
      by_cases hshown : r.IsShown verbosity
      · rw [if_pos hshown, if_pos hshown, List.singleton_append, List.foldl_cons, List.foldl_cons]
        exact hfile _
      · rw [if_neg hshown, if_neg hshown, List.nil_append, List.append_nil, List.foldl_cons]
        exact hfile j.stderr
    rw [hlog, if_pos hdebug]
    exact ⟨⟨h.clock, h.sinks, h.isAbsolute, hputs.read⟩, rfl⟩
  · have hshown : ¬ r.IsShown verbosity := fun hshown => hdebug (debug_le_of_isShown hshown)
    have hlog : j.log r = j := by
      rw [Journal.log, h.sinks, if_neg hdebug, if_neg hshown]
      rfl
    rw [hlog, if_neg hdebug, if_neg hshown, List.append_nil, List.append_nil]
    exact ⟨h, rfl⟩

theorem gains_fileLine {texts : List String} {gained : List UInt8} (h : Gains clock texts gained)
    (r : Record) : Gains clock (r.text :: texts) (fileLine clock r ++ gained) := by
  rw [fileLine]
  split
  next => exact .line r.text h
  next htext => exact .lost (Bool.eq_false_iff.2 htext) h

theorem WritesTo.logAll (h : j.WritesTo clock verbosity file content) (records : List Record) :
    (∃ gained, Gains clock (fileTexts records) gained ∧
        (j.logAll records).WritesTo clock verbosity file (content ++ gained)) ∧
      (j.logAll records).stderr = j.stderr ++ shownTexts verbosity records := by
  induction records generalizing j content with
  | nil =>
    have hwrites : j.WritesTo clock verbosity file (content ++ []) := by rwa [List.append_nil]
    exact ⟨⟨[], .nil, hwrites⟩, by simp [Journal.logAll, shownTexts]⟩
  | cons r records ih =>
    obtain ⟨hwrites, hstderr⟩ := h.log r
    obtain ⟨⟨gained, hgains, hlater⟩, hshown⟩ := ih hwrites
    have hfile : Gains clock (fileTexts (r :: records))
        ((if .debug ≤ r.level then fileLine clock r else []) ++ gained) := by
      by_cases hdebug : .debug ≤ r.level
      · simpa [fileTexts, hdebug] using gains_fileLine hgains r
      · simpa [fileTexts, hdebug] using hgains
    have htexts : shownTexts verbosity (r :: records) =
        (if r.IsShown verbosity then [r.text] else []) ++ shownTexts verbosity records := by
      by_cases hlevel : r.IsShown verbosity <;> simp [shownTexts, hlevel]
    rw [htexts, ← List.append_assoc, ← hstderr]
    rw [List.append_assoc] at hlater
    exact ⟨⟨_, hfile, hlater⟩, hshown⟩

/-! ## What is kept -/

theorem keeps_deliver (r : Record) (j : Journal) (sink : Sink) :
    j.files.Keeps (deliver r j sink).files := by
  cases sink with
  | stderr => exact .refl j.files
  | elsewhere => exact .refl j.files
  | file path =>
    rw [deliver]
    dsimp only
    cases happend : j.files.append path (fileLine j.clock r) with
    | error fault => exact .refl j.files
    | ok files => exact Files.keeps_of_update happend

theorem keeps_log (j : Journal) (r : Record) : j.files.Keeps (j.log r).files := by
  rw [Journal.log]
  induction sinksFor j.logger r generalizing j with
  | nil => exact .refl j.files
  | cons sink sinks ih => exact (keeps_deliver r j sink).trans (ih _)

theorem keeps_configure (j : Journal) (settings : Settings) :
    j.files.Keeps (j.configure settings).files := by
  rw [configure]
  cases settings.target with
  | none => exact .refl j.files
  | some path =>
    dsimp only
    cases hopen : openFile j.files path with
    | error fault => exact .refl j.files
    | ok files => exact (openFile_eq_ok hopen).1

theorem clock_log (j : Journal) (r : Record) : (j.log r).clock = j.clock := by
  obtain ⟨files, stderr, hlog⟩ := exists_log_eq j r
  rw [hlog]

theorem clock_configure (j : Journal) (settings : Settings) :
    (j.configure settings).clock = j.clock := by
  rw [configure]
  cases settings.target with
  | none => rfl
  | some path =>
    dsimp only
    cases openFile j.files path <;> rfl

end Journal

namespace Script

variable {s : Script} {actions before body : List Action} {action : Action} {content : List UInt8}
variable {clock : String} {file : Path}

theorem act_keeps (s : Script) (action : Action) :
    s.journal.files.Keeps (s.act action).journal.files ∧
      (s.act action).journal.clock = s.journal.clock := by
  cases action with
  | configure settings =>
    exact ⟨Journal.keeps_configure s.journal settings, Journal.clock_configure s.journal settings⟩
  | restore =>
    rw [act]
    cases s.pending <;> exact ⟨.refl _, rfl⟩
  | restoreAgain =>
    rw [act]
    cases s.restored <;> exact ⟨.refl _, rfl⟩
  | record r => exact ⟨Journal.keeps_log s.journal r, Journal.clock_log s.journal r⟩
  | build request =>
    rw [act]
    cases request.build with
    | error e => exact ⟨.refl _, rfl⟩
    | ok query => exact ⟨Journal.keeps_log s.journal _, Journal.clock_log s.journal _⟩

/-- No action takes away a file or a directory. -/
theorem run_keeps (s : Script) (actions : List Action) :
    s.journal.files.Keeps (s.run actions).journal.files ∧
      (s.run actions).journal.clock = s.journal.clock := by
  induction actions generalizing s with
  | nil => exact ⟨.refl _, rfl⟩
  | cons action actions ih =>
    obtain ⟨hkeeps, hclock⟩ := act_keeps s action
    obtain ⟨hlater, hsame⟩ := ih (s.act action)
    exact ⟨hkeeps.trans hlater, hsame.trans hclock⟩

/-! ## Runs -/

/-- An action that leaves the loggers alone writes its records. -/
theorem act_idle (s : Script) (hidle : action.IsIdle) :
    s.act action = { s with journal := s.journal.logAll action.records } := by
  cases action with
  | record r => rfl
  | build request =>
    rw [act, Action.records]
    cases request.build <;> rfl
  | _ => cases hidle

theorem run_idle (s : Script) (hidle : ∀ action ∈ actions, action.IsIdle) :
    (s.run actions).journal = s.journal.logAll (actions.flatMap Action.records) := by
  induction actions generalizing s with
  | nil => rfl
  | cons action actions ih =>
    rw [List.forall_mem_cons] at hidle
    rw [List.flatMap_cons, Journal.logAll, List.foldl_append, run, List.foldl_cons,
      act_idle s hidle.1]
    exact ih _ hidle.2

/-- A configuration writes to its log file when those within it have been restored. -/
theorem run_writesTo (hs : s.journal.IsNumbered) (hbefore : Nested before)
    (hbody : Balanced false body) (htarget : settings.target = some path)
    (hopen : Journal.openFile (s.run before).journal.files path = .ok opened) :
    ∃ content, (s.run (before ++ .configure settings :: body)).journal.WritesTo s.journal.clock
      settings.verbosity (opened.absolute path) content := by
  obtain ⟨-, -, hreturns, -⟩ := run_within hs hbefore settings hbody
  have hclock := (run_keeps s (before ++ .configure settings :: body)).2
  have hrun : s.run (before ++ .configure settings :: body) =
      ((s.run before).act (.configure settings)).run body :=
    run_append s before (.configure settings :: body)
  rw [hrun] at hclock ⊢
  have hfiles : ((s.run before).act (.configure settings)).journal.files = opened := by
    rw [act, Journal.configure, htarget]
    simp only [hopen]
    rfl
  obtain ⟨first, hfirst⟩ := (Journal.openFile_eq_ok hopen).2
  obtain ⟨content, hread⟩ :=
    (run_keeps ((s.run before).act (.configure settings)) body).1.exists_read (by rwa [hfiles])
  refine ⟨content, hclock, fun r => ?_, opened.isAbsolute_absolute path, hread⟩
  rw [hreturns.logger]
  exact Journal.sinksFor_configure htarget hopen r

end Script
end CaretQuery.Log
