import CaretQuery.Proofs.CommandLine.Checks
import CaretQuery.Proofs.CommandLine.Formats
import CaretQuery.Proofs.Config.Creation
import CaretQuery.Proofs.Log.Agreement

/-! # Creating configurations one after another

Command lines that ask for a new configuration at the same path, one after
another. Each first makes the directories above the path. Where there is a file
then, it is left alone unless overwriting is asked for; otherwise the path holds
the template afterwards, which is loaded as the built-in operators. What a
command does is settled by what it finds, and where the path can hold a file it
can still do so after the command, so this goes on through the whole sequence.
-/
namespace CaretQuery.CommandLine

variable {host : Host} {arguments : List String} {g : Globals} {i : Invocation} {p : Path}
variable {files s made written : Files} {earlier present force : Bool} {j : Log.Journal}

/-! ## Runs without a log file -/

theorem target_of_logFile (hlog : g.logFile = none) : g.logSettings.target = none := by
  rw [Globals.logSettings, Log.Settings.target, hlog]
  rfl

theorem journal_of_logFile (host : Host) (hlog : g.logFile = none) (files : Files) :
    (host.journal files g).files = files ∧
      ∀ r, Log.Journal.fileSinks (host.journal files g).logger r = [] := by
  rw [Host.journal, Log.Journal.configure, target_of_logFile hlog]
  exact ⟨rfl, fun r => Log.Journal.fileSinks_install_stderr _ _ _ r⟩

theorem files_journalAfter {command : String} {failed : Bool}
    (hsinks : ∀ r, Log.Journal.fileSinks j.logger r = []) :
    (journalAfter command failed j).files = j.files := by
  rw [journalAfter]
  split
  · rw [Log.Journal.files_log, hsinks]
    rfl
  · rfl

/-- A run shows the end of its command, behind what has been logged, and exits with a code. -/
def Shows (host : Host) (g : Globals) (i : Invocation) (p : Path)
    (result : Except Failure Outcome) (exitCode : Int) (ending : Ending) : Prop :=
  let finished :=
    finish (g.display i.format)
      ⟨i.command.name, p.text, [], host.durationMs, i.command.readsJson⟩ result
  finished.exitCode = exitCode ∧
    ∃ lines, ending = .finished exitCode finished.stdout (lines ++ finished.stderr)

/-- A run without a log file of a command that reads no JSON ends as its command does, and with the
files of its command. -/
theorem shows_run (hreach : Reaches host files arguments g i)
    (hreads : i.command.readsJson = false)
    (hpath : configPath host.environment g.config = p) (hlog : g.logFile = none)
    {result : Except Failure Outcome}
    (hperform : i.command.perform host p (host.journal files g) = (result, j))
    (hlogger : j.logger = (host.journal files g).logger) :
    Shows host g i p result (exitCodeOf result) (run host files arguments).1 ∧
      (run host files arguments).2 = j.files := by
  subst hpath
  obtain ⟨bound, hbound⟩ := exists_numbersBelow host (host.journal files g).files i.command
  have hends := i.command.ends_perform host (configPath host.environment g.config)
    (host.journal files g) hbound.2
  rw [hperform] at hends
  have hsinks := (journal_of_logFile host hlog files).2
  rw [← hlogger] at hsinks
  have hexit : (finish (g.display i.format) (host.heading g i.command) result).exitCode =
      exitCodeOf result := by
    rw [finish_of_not_readsJson hreads]
    exact exitCode_conclude rfl hends
  rw [run_of_finish hreach hperform rfl, hexit]
  exact ⟨⟨hexit, _, rfl⟩, files_journalAfter hsinks⟩

/-! ## Creating a configuration -/

/-- The report of a configuration that has been created. -/
def created (p : Path) (overwritten : Bool) : Except Failure Outcome :=
  .ok { data := .object [("path", .str p.text), ("created", .bool true),
    ("overwritten", .bool overwritten)] }

/-- The report of a configuration that is there and may not be overwritten. -/
def refused (p : Path) : Except Failure Outcome :=
  .error (.reported ⟨"file_exists",
    "Config already exists: " ++ p.text ++ " (use --force to overwrite)", none, none⟩ 2)

theorem performInit_refused (hprepares : j.files.Prepares p earlier true made) :
    performInit p false j = (refused p, { j with files := made }) := by
  rw [performInit, hprepares.ensureDirectories]
  simp only [writeTemplate, hprepares.isPresent_after]
  rfl

theorem performInit_created (hprepares : j.files.Prepares p earlier present made)
    (hwrite : made.write p (Text.Utf8.encode Config.template) = .ok written)
    (hforce : force = true ∨ present = false) :
    performInit p force j = (created p present, { j with files := written }) := by
  have hallowed : (present && !force) = false := by
    rcases hforce with rfl | rfl <;> simp
  rw [performInit, hprepares.ensureDirectories]
  simp only [writeTemplate, hprepares.isPresent_after, hallowed, hwrite, Bool.false_eq_true,
    if_false]
  rfl

/-- The path holds the template. It is loaded as the built-in operators, and the path is reported
as that of a file. -/
structure HoldsTemplate (files : Files) (p : Path) : Prop where
  read : files.read p = .ok (Text.Utf8.encode Config.template)
  load : ∃ loaded, Config.load files p = .ok loaded ∧ loaded.isPresent = true ∧
    loaded.operators.rows = OperatorTable.builtin.rows
  shows_configPath : ∀ host arguments g format,
    Reaches host files arguments g ⟨.configPath, format⟩ →
    configPath host.environment g.config = p → g.logFile = none →
    Shows host g ⟨.configPath, format⟩ p
        (.ok { data := .object [("path", .str p.text), ("exists", .bool true)] }) 0
        (run host files arguments).1 ∧
      (run host files arguments).2 = files

theorem holdsTemplate_of_puts
    (hputs : made.Puts p (.file (Text.Utf8.encode Config.template)) written) :
    HoldsTemplate written p := by
  have hread := hputs.read
  have hpresent := Files.isPresent_eq_true_iff.2 ⟨_, hputs.locate⟩
  refine ⟨hread, ⟨_, Config.load_template hpresent hread, rfl, rfl⟩, ?_⟩
  intro host arguments g format hreach hpath hlog
  obtain ⟨hfiles, -⟩ := journal_of_logFile host hlog written
  have hperform : Command.perform host p (host.journal written g) .configPath =
      (.ok { data := .object [("path", .str p.text), ("exists", .bool true)] },
        host.journal written g) := by
    rw [Command.perform, configPathOutcome, hfiles, hpresent]
  obtain ⟨hshows, hafter⟩ := shows_run hreach rfl hpath hlog hperform rfl
  exact ⟨hshows, hafter.trans hfiles⟩

/-! ## Command lines -/

/-- A command line that asks for a new configuration, overwriting or not. -/
structure Creation where
  host : Host
  arguments : List String
  globals : Globals
  force : Bool
  format : Format

namespace Creation

variable {c : Creation} {cs : List Creation}

def invocation (c : Creation) : Invocation := ⟨.configInit c.force, c.format⟩

/-- The command line is in order on files; it is about a path, and it names no log file. -/
structure IsFor (c : Creation) (files : Files) (p : Path) : Prop where
  reaches : Reaches c.host files c.arguments c.globals c.invocation
  configPath_eq : configPath c.host.environment c.globals.config = p
  logFile : c.globals.logFile = none

def run (c : Creation) (files : Files) : Ending × Files :=
  CommandLine.run c.host files c.arguments

/-- The files after some command lines. -/
def runAll (files : Files) (cs : List Creation) : Files :=
  cs.foldl (fun files c => (c.run files).2) files

/-- What a command line does once the directories are made: a file that is there is left alone
without being forced, and otherwise the template is written and nothing else is changed. -/
inductive Leaves (c : Creation) (p : Path) (present : Bool) (made : Files) :
    Ending × Files → Prop
  | refused {ending : Ending} (hforce : c.force = false) (hpresent : present = true)
      (hshows : Shows c.host c.globals c.invocation p (refused p) 2 ending) :
      Leaves c p present made (ending, made)
  | created {ending : Ending} {written : Files} (hforce : c.force = true ∨ present = false)
      (hshows : Shows c.host c.globals c.invocation p (created p present) 0 ending)
      (hputs : made.Puts p (.file (Text.Utf8.encode Config.template)) written)
      (htemplate : HoldsTemplate written p) : Leaves c p present made (ending, written)

/-- What a command line does where the path can hold a file. -/
theorem run_leaves (hfor : c.IsFor s p) (hprepares : s.Prepares p earlier present made)
    (hready : made.IsReady p) :
    c.Leaves p present made (c.run s) ∧ (c.run s).2.IsReady p := by
  obtain ⟨hfiles, -⟩ := journal_of_logFile c.host hfor.logFile s
  have hprepares : (c.host.journal s c.globals).files.Prepares p earlier present made := by
    rwa [hfiles]
  have hrun {result : Except Failure Outcome} {after : Files}
      (hperform : performInit p c.force (c.host.journal s c.globals) =
        (result, { c.host.journal s c.globals with files := after })) :=
    shows_run hfor.reaches rfl hfor.configPath_eq hfor.logFile hperform rfl
  by_cases hkept : c.force = false ∧ present = true
  · obtain ⟨hforce, rfl⟩ := hkept
    obtain ⟨hshows, hafter⟩ := hrun (by rw [hforce]; exact performInit_refused hprepares)
    have hleft : c.run s = ((c.run s).1, made) := Prod.ext rfl hafter
    rw [hleft]
    exact ⟨.refused hforce rfl hshows, hready⟩
  · have hforce : c.force = true ∨ present = false := by
      cases hc : c.force <;> cases present <;> simp_all
    obtain ⟨written, hwrite, hputs⟩ := hready.exists_write (Text.Utf8.encode Config.template)
    obtain ⟨hshows, hafter⟩ := hrun (performInit_created hprepares hwrite hforce)
    have hleft : c.run s = ((c.run s).1, written) := Prod.ext rfl hafter
    rw [hleft]
    exact ⟨.created hforce hshows hputs (holdsTemplate_of_puts hputs), hready.of_write hwrite⟩

/-- A command line stays in order as long as no directory takes the place of the configuration. -/
theorem IsFor.later {s' : Files} (hfor : c.IsFor s p)
    (hbefore : s.itemAt? (s.placeOf p) ≠ some .directory)
    (hafter : s'.itemAt? (s'.placeOf p) ≠ some .directory) : c.IsFor s' p := by
  obtain ⟨⟨name, rest, topic, hglobals, hfind, hread⟩, hpath, hlog⟩ := hfor
  have hnamed := named?_of_findTopic hfind
  obtain rfl := eq_config_of_read hnamed hread
  have hsame : readGlobals s' c.arguments = readGlobals s c.arguments := by
    refine readGlobals_congr fun scan hscan option hoption value hvalue => ?_
    have hsettings := globals_of_read hglobals hscan
    simp only [fileOptions, List.mem_cons, List.not_mem_nil, or_false] at hoption
    rcases hoption with rfl | rfl
    · have hconfig : c.globals.config = some value := by rw [hsettings]; exact hvalue
      obtain rfl : Path.ofText value = p := by rw [← hpath, hconfig]; rfl
      rw [Files.namesDirectory_eq_false hbefore, Files.namesDirectory_eq_false hafter]
    · have hempty : value = "" := by
        have hnone : (scan.value? "--log-file").filter (fun file => file != "") = none := by
          rw [← hlog, hsettings]
          rfl
        simpa [Option.mem_def.1 hvalue] using hnone
      rw [hempty]
      rfl
  exact ⟨⟨name, rest, .config, hsame.trans hglobals, findTopic_of_named? hnamed rest,
    (readConfigCommand_congr c.globals.format).trans hread⟩, hpath, hlog⟩

/-! ## Sequences -/

/-- The path can hold a file, and the command lines to come are about it. -/
structure Ready (s : Files) (p : Path) (cs : List Creation) : Prop where
  start : s.StartsInDirectory p
  canHold : s.CanHold p
  isFor : ∀ c ∈ cs, c.IsFor s p

/-- One command line leaves the others ready. -/
theorem Ready.run (h : Ready s p (c :: cs)) :
    ∃ earlier present made, s.Prepares p earlier present made ∧
      c.Leaves p present made (c.run s) ∧ Ready (c.run s).2 p cs := by
  obtain ⟨earlier, present, made, hprepares, hready⟩ := h.canHold.exists_prepares h.start
  obtain ⟨hleaves, hnext⟩ := run_leaves (h.isFor c List.mem_cons_self) hprepares hready
  refine ⟨earlier, present, made, hprepares, hleaves, hnext.start, hnext.canHold,
    fun other hother => ?_⟩
  exact (h.isFor other (List.mem_cons_of_mem c hother)).later
    (hprepares.itemAt?_ne_directory hready) hnext.itemAt?_ne_directory

theorem Ready.runAll {before after : List Creation} (h : Ready s p (before ++ after)) :
    Ready (runAll s before) p after := by
  induction before generalizing s with
  | nil => exact h
  | cons c before ih =>
    obtain ⟨-, -, -, -, -, hnext⟩ := h.run
    exact ih hnext

/-- The template stays where it is, or is written once more. -/
theorem holdsTemplate_run (h : Ready s p (c :: cs)) (htemplate : HoldsTemplate s p) :
    HoldsTemplate (c.run s).2 p := by
  obtain ⟨earlier, present, made, hprepares, hleaves, -⟩ := h.run
  obtain ⟨place, hlocate, -⟩ := Files.read_eq_ok_iff.1 htemplate.read
  have hpresent := Files.isPresent_eq_true_iff.2 ⟨place, hlocate⟩
  have hearlier : earlier = true := Except.ok.inj (hprepares.isPresent_before.symm.trans hpresent)
  generalize c.run s = result at hleaves
  cases hleaves with
  | refused hforce hkept hshows =>
    rw [hprepares.unchanged hearlier]
    exact htemplate
  | created hforce hshows hputs hwritten => exact hwritten

theorem holdsTemplate_runAll (h : Ready s p cs) (htemplate : HoldsTemplate s p) :
    HoldsTemplate (runAll s cs) p := by
  induction cs generalizing s with
  | nil => exact htemplate
  | cons c cs ih =>
    obtain ⟨-, -, -, -, -, hnext⟩ := h.run
    exact ih hnext (holdsTemplate_run h htemplate)

/-- A command line that succeeds has written the template. -/
theorem Leaves.holdsTemplate {result : Ending × Files} (h : c.Leaves p present made result)
    {stdout : Output} {stderr : List Line} (hending : result.1 = .finished 0 stdout stderr) :
    HoldsTemplate result.2 p := by
  cases h with
  | refused hforce hkept hshows =>
    obtain ⟨-, lines, rfl⟩ := hshows
    cases hending
  | created hforce hshows hputs htemplate => exact htemplate

/-- Command lines one after another, each asking for a new configuration at a path that can hold
one. A command line that is not forced leaves what is at the path when the directories above it are
there, and fails; every other one writes the template, tells whether it has overwritten a file,
and changes nothing else but for making those directories. Once a command line has succeeded, the
path holds the template for ever. -/
theorem runAll_leaves (hstart : files.StartsInDirectory p) (hhold : files.CanHold p)
    (hfor : ∀ c ∈ cs, c.IsFor files p) {before after : List Creation}
    (hsplit : cs = before ++ c :: after) :
    (∃ earlier present made, (runAll files before).Prepares p earlier present made ∧
      c.Leaves p present made (c.run (runAll files before))) ∧
    ((∃ stdout stderr, (c.run (runAll files before)).1 = .finished 0 stdout stderr) →
      ∀ later, later <+: after → HoldsTemplate (runAll files (before ++ c :: later)) p) := by
  have hready : Ready (runAll files before) p (c :: after) :=
    Ready.runAll ⟨hstart, hhold, hsplit ▸ hfor⟩
  obtain ⟨earlier, present, made, hprepares, hleaves, hnext⟩ := hready.run
  refine ⟨⟨earlier, present, made, hprepares, hleaves⟩, ?_⟩
  rintro ⟨stdout, stderr, hending⟩ later ⟨rest, rfl⟩
  have hrun : runAll files (before ++ c :: later) =
      runAll (c.run (runAll files before)).2 later := List.foldl_append
  rw [hrun]
  exact holdsTemplate_runAll ⟨hnext.start, hnext.canHold,
    fun other hother => hnext.isFor other (List.mem_append_left rest hother)⟩
    (hleaves.holdsTemplate hending)

/-- A second command line that is not forced, between one that makes the directory and one that is
forced. -/
theorem runAll_leaves_second :
    let p : Path := ⟨"", ["d", "c.toml"]⟩
    let host : Host := { environment := { configFile := "d/c.toml" } }
    let first : Creation := ⟨host, ["config", "init"], {}, false, .table⟩
    let forced : Creation := ⟨host, ["config", "init", "--force"], {}, true, .table⟩
    Files.StartsInDirectory {} p ∧ Files.CanHold {} p ∧
      (∀ c ∈ [first, first, forced], c.IsFor {} p) ∧
      (∃ earlier present made, (runAll {} [first]).Prepares p earlier present made ∧
        first.Leaves p present made (first.run (runAll {} [first]))) := by
  intro p host first forced
  have hstart : Files.StartsInDirectory {} p := rfl
  have hhold : Files.CanHold {} p := ⟨{ root := [("d", .directory [])] }, by cbv,
    { root := [("d", .directory [("c.toml", .file [])])] }, by cbv⟩
  have hfirst : first.IsFor {} p :=
    ⟨⟨"config", ["init"], .config, by cbv, by cbv, by cbv⟩, by cbv, rfl⟩
  have hforced : forced.IsFor {} p :=
    ⟨⟨"config", ["init", "--force"], .config, by cbv, by cbv, by cbv⟩, by cbv, rfl⟩
  have hfor : ∀ c ∈ [first, first, forced], c.IsFor {} p := by
    simp [hfirst, hforced]
  exact ⟨hstart, hhold, hfor, (runAll_leaves hstart hhold hfor
    (rfl : [first, first, forced] = [first] ++ first :: [forced])).1⟩

/-- A path through a directory that is still missing: nothing is found there before, but a command
line that is not forced fails. With a log file it changes that file. -/
theorem run_refuses_beyond_missing :
    let files : Files := { root := [("c.toml", .file [])] }
    let p : Path := ⟨"", ["x", "..", "c.toml"]⟩
    let c : Creation :=
      ⟨{ environment := { configFile := "x/../c.toml" } }, ["config", "init"], {}, false, .table⟩
    let other : Creation :=
      ⟨{ environment := { configFile := "c.toml" } }, ["--log-file", "run", "config", "init"],
        { logFile := "run" }, false, .table⟩
    (files.CanHold p ∧ c.IsFor files p ∧ files.isPresent p = .ok false ∧
      ∃ stdout stderr, (c.run files).1 = .finished 2 stdout stderr) ∧
    files.isPresent ⟨"", ["c.toml"]⟩ = .ok true ∧ files.isPresent ⟨"", ["run"]⟩ = .ok false ∧
      (other.run files).2.isPresent ⟨"", ["run"]⟩ = .ok true := by
  intro files p c other
  have hhold : files.CanHold p := ⟨{ root := [("c.toml", .file []), ("x", .directory [])] }, by cbv,
    { root := [("c.toml", .file []), ("x", .directory [])] }, by cbv⟩
  have hfor : c.IsFor files p :=
    ⟨⟨"config", ["init"], .config, by cbv, by cbv, by cbv⟩, by cbv, rfl⟩
  have hending : ∃ stdout stderr, (c.run files).1 = .finished 2 stdout stderr := by
    obtain ⟨earlier, present, made, hprepares, hready⟩ := hhold.exists_prepares rfl
    have hmade : files.ensureDirectories p.parent =
        .ok { root := [("c.toml", .file []), ("x", .directory [])] } := by cbv
    obtain rfl := Except.ok.inj (hmade.symm.trans hprepares.ensureDirectories)
    have hpresent : Files.isPresent { root := [("c.toml", .file []), ("x", .directory [])] } p =
        .ok true := by cbv
    obtain rfl := Except.ok.inj (hpresent.symm.trans hprepares.isPresent_after)
    have hleaves := (run_leaves hfor hprepares hready).1
    generalize c.run files = result at hleaves
    cases hleaves with
    | refused hforce hkept hshows =>
      obtain ⟨-, lines, rfl⟩ := hshows
      exact ⟨_, _, rfl⟩
    | created hforce => simp [c] at hforce
  have hscan : Scan.scan globalSpecs false other.arguments =
      .ok ⟨[⟨"--log-file", "run"⟩], ["config", "init"]⟩ := by cbv
  have hdirectory : files.namesDirectory "run" = false := by cbv
  have hglobals : readGlobals files other.arguments =
      .ok (.run ({ logFile := "run" }, ["config", "init"])) :=
    (readGlobals_of_scan hscan (by cbv) (by cbv) (by simp [hdirectory])).trans (by cbv)
  have hreach : Reaches other.host files other.arguments other.globals other.invocation :=
    ⟨"config", ["init"], .config, hglobals, by cbv, by cbv⟩
  refine ⟨⟨hhold, hfor, by cbv, hending⟩, by cbv, by cbv, ?_⟩
  rw [run, run_of_reaches hreach]
  cbv

end Creation
end CaretQuery.CommandLine
