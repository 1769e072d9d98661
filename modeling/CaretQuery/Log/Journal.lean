import CaretQuery.Files.Tree
import CaretQuery.Log.Record

/-!
# Logging

The loggers are configured together: a level, the handlers that records go to, and whether records
are passed on further. Configuring returns the state before, and restoring brings a state back.
Every handler has a number of its own, so that those of a state are told from those made since.
Warnings and worse always go to standard error, less severe records with growing verbosity; a log
file takes all of them.
-/
namespace CaretQuery.Log

/-- Where a handler writes. Handlers that were installed by others write to places of their own. -/
inductive Sink where
  | stderr
  | file (path : Path)
  | elsewhere
  deriving DecidableEq, Repr

structure Handler where
  number : Nat
  level : Level
  sink : Sink
  deriving DecidableEq, Repr

/-- The state of the loggers. An unset level takes what the surroundings take, that is warnings. -/
structure LoggerState where
  level : Option Level := none
  handlers : List Handler := []
  propagate : Bool := true
  deriving DecidableEq, Repr

def LoggerState.threshold (s : LoggerState) : Level := s.level.getD .warning

/-- The state of the loggers with everything that has been written. `clock` stands before a record
in a file. -/
structure Journal where
  clock : String
  files : Files := {}
  stderr : List String := []
  logger : LoggerState := {}
  handlersMade : Nat := 0
  closed : List Nat := []

/-- The wishes of a run: how much goes to standard error, and into which file records go. -/
structure Settings where
  verbosity : Int := 0
  file : Option Path := none
  fileEnabled : Bool := false
  deriving DecidableEq, Repr

def levelFor (verbosity : Int) : Level :=
  if 2 ≤ verbosity then .debug else if verbosity = 1 then .info else .warning

theorem debug_le_levelFor (verbosity : Int) : .debug ≤ levelFor verbosity := by
  unfold levelFor
  split
  · decide
  · split <;> decide

/-- A file takes at least what standard error takes. -/
theorem levelFor_min_debug (verbosity : Int) : (levelFor verbosity).min .debug = .debug := by
  unfold levelFor
  split
  · rfl
  · split <;> rfl

namespace Settings

/-- The file that records go to, if there is one. -/
def target (s : Settings) : Option Path := if s.fileEnabled then s.file else none

end Settings

namespace Journal

/-- Makes a log file ready, together with the directories above it. -/
def openFile (files : Files) (path : Path) : Except FileFault Files :=
  match files.ensureDirectories path.parent with
  | .error fault => .error fault
  | .ok files => files.append (files.absolute path) []

/-- Installs handlers in the place of the present ones. -/
def install (j : Journal) (level : Level) (sinks : List (Level × Sink)) : Journal :=
  let handlers := sinks.mapIdx fun i (level, sink) => Handler.mk (j.handlersMade + i) level sink
  { j with
    logger := ⟨some level, handlers, false⟩
    handlersMade := j.handlersMade + sinks.length }

/-- Configures logging. A log file that cannot be opened is reported and left out. -/
def configure (j : Journal) (settings : Settings) : Journal :=
  let level := levelFor settings.verbosity
  match settings.target with
  | none => j.install level [(level, .stderr)]
  | some path =>
    match openFile j.files path with
    | .error fault =>
      let warning := "Warning: cannot open log file " ++ path.text ++ ": " ++ fault.message
      { j with stderr := j.stderr ++ [warning] }.install level [(level, .stderr)]
    | .ok files =>
      { j with files := files }.install (level.min .debug)
        [(level, .stderr), (.debug, .file (files.absolute path))]

/-- Brings a state back and closes the present handlers that are not part of it. -/
def restore (j : Journal) (previous : LoggerState) : Journal :=
  let dropped := j.logger.handlers.filter fun handler => !previous.handlers.contains handler
  { j with logger := previous, closed := j.closed ++ dropped.map Handler.number }

/-- What a record adds to a log file: one line, or nothing if it cannot be encoded. -/
def fileLine (clock : String) (r : Record) : List UInt8 :=
  if Text.isEncodable r.text then Text.Utf8.encode (clock ++ " " ++ r.text ++ "\n") else []

/-- Writes a record to a sink. A file that is gone takes nothing. -/
def deliver (r : Record) (j : Journal) (sink : Sink) : Journal :=
  match sink with
  | .stderr => { j with stderr := j.stderr ++ [r.text] }
  | .file path =>
    { j with files := (j.files.append path (fileLine j.clock r)).toOption.getD j.files }
  | .elsewhere => j

/-- The sinks that take a record in a state. -/
def sinksFor (s : LoggerState) (r : Record) : List Sink :=
  if s.threshold ≤ r.level then
    (s.handlers.filter fun handler => decide (handler.level ≤ r.level)).map Handler.sink
  else []

def log (j : Journal) (r : Record) : Journal := (sinksFor j.logger r).foldl (deliver r) j

def logAll (j : Journal) (records : List Record) : Journal := records.foldl log j

end Journal

/-! ## Scripts -/

/-- What happens to the loggers: configuring, restoring the state before the last configuring that
is still pending, restoring once more what was restored last, a record, or the attempt to build a
query. -/
inductive Action where
  | configure (settings : Settings)
  | restore
  | restoreAgain
  | record (record : Record)
  | build (request : QueryRequest)

/-- A journal with the states to be restored, the latest first, and the one restored last. -/
structure Script where
  journal : Journal
  pending : List LoggerState := []
  restored : Option LoggerState := none

namespace Script

def act (s : Script) : Action → Script
  | .configure settings =>
    { s with journal := s.journal.configure settings, pending := s.journal.logger :: s.pending }
  | .restore =>
    match s.pending with
    | [] => s
    | previous :: rest => ⟨s.journal.restore previous, rest, some previous⟩
  | .restoreAgain =>
    match s.restored with
    | none => s
    | some previous => { s with journal := s.journal.restore previous }
  | .record r => { s with journal := s.journal.log r }
  | .build request =>
    match request.build with
    | .error _ => s
    | .ok query => { s with journal := s.journal.log (ofQuery query) }

/-- The journals after each action, in order. -/
def trace (s : Script) : List Action → List Journal
  | [] => []
  | action :: actions => (s.act action).journal :: (s.act action).trace actions

def run (s : Script) (actions : List Action) : Script := actions.foldl act s

/-- Restores every state that is still pending. -/
def close (s : Script) : Journal := s.pending.foldl Journal.restore s.journal

end Script
end CaretQuery.Log
