import CaretQuery.CommandLine.Build

/-!
# Runs

One run of the program: the arguments are read, logging is configured, the command is performed and
its end is shown. What a run changes are the files. Logging is configured as soon as the name of the
command is known, so a log file is made even if the arguments of the command are wrong.
-/
namespace CaretQuery.CommandLine

/-- What a run finds around it, besides the files. -/
structure Host where
  environment : Environment := {}
  stdin : List UInt8 := []
  runtimeVersion : String := ""
  platform : String := ""
  clock : String := ""
  durationMs : Nat := 0

/-! ## Commands -/

def operatorRow (op : Operator) : Json :=
  .object [("name", .str op.name), ("queryOperator", .str op.token),
    ("requiresValue", .bool op.requiresValue), ("description", .ofOption .str op.description)]

def performOperators (cache : Config.Cache) (j : Log.Journal) : Logged Outcome :=
  match loadLogged cache j with
  | (.error failure, j) => (.error failure, j)
  | (.ok table, j) => (.ok { data := .array (table.rows.map operatorRow) }, j)

def configPathOutcome (files : Files) (path : Path) : Except Failure Outcome :=
  match files.isPresent path with
  | .error fault => .error (.ofFileFault fault)
  | .ok present =>
    .ok { data := .object [("path", .str path.text), ("exists", .bool present)] }

/-- Writes the template to the path of the configuration. -/
def writeTemplate (files : Files) (path : Path) (force : Bool) : Except Failure (Bool × Files) :=
  match files.isPresent path with
  | .error fault => .error (.ofFileFault fault)
  | .ok present =>
    if present && !force then
      .error (.fileExists ("Config already exists: " ++ path.text ++ " (use --force to overwrite)"))
    else
      match files.write path (Text.Utf8.encode Config.template) with
      | .error fault => .error (.ofFileFault fault)
      | .ok files => .ok (present, files)

/-- Makes the directory of the configuration and then the configuration. -/
def performInit (path : Path) (force : Bool) (j : Log.Journal) : Logged Outcome :=
  match j.files.ensureDirectories path.parent with
  | .error fault => (.error (.ofFileFault fault), j)
  | .ok files =>
    match writeTemplate files path force with
    | .error failure => (.error failure, { j with files })
    | .ok (overwritten, files) =>
      (.ok { data := .object [("path", .str path.text), ("created", .bool true),
          ("overwritten", .bool overwritten)] }, { j with files })

def versionData (host : Host) : Json :=
  .object [("version", .str programVersion), ("pythonVersion", .str host.runtimeVersion),
    ("platform", .str host.platform)]

def Command.perform (host : Host) (path : Path) (j : Log.Journal) : Command → Logged Outcome
  | .build a => a.perform ⟨path, none⟩ host.stdin j
  | .operators => performOperators ⟨path, none⟩ j
  | .configPath => (configPathOutcome j.files path, j)
  | .configInit force => performInit path force j
  | .version => (.ok { data := versionData host }, j)

def Command.readsJson : Command → Bool
  | .build a => a.readsJson
  | _ => false

/-! ## The run -/

/-- How a run ends. -/
inductive Ending where
  /-- The command line is wrong. -/
  | refused (error : UsageError)
  | finished (exitCode : Int) (stdout : Output) (stderr : List Line)

def refusedExitCode : Int := 2

def versionLine : String := programName ++ ", version " ++ programVersion ++ "\n"

def logLines (j : Log.Journal) : List Line :=
  j.stderr.flatMap fun text =>
    (Text.splitAt '\n' text.toList).map fun line => .text (String.ofList (Text.trimRight line))

def failureRecord (command : String) : Log.Record :=
  ⟨.debug, Log.rootLogger ++ ".cli.runner", "command " ++ Text.quoted command ++ " failed"⟩

def Globals.display (g : Globals) (format : Format) : Display := ⟨format, g.quiet, g.verbosity⟩

def Globals.logSettings (g : Globals) : Log.Settings where
  verbosity := g.verbosity
  file := g.logFile.map .ofText
  fileEnabled := g.logFile.isSome && g.logFileEnabled

/-- Performs a command and shows its end. -/
def Invocation.run (host : Host) (g : Globals) (j : Log.Journal) (i : Invocation) :
    Ending × Log.Journal :=
  let path := configPath host.environment g.config
  let (result, j) := i.command.perform host path j
  let heading : Heading :=
    ⟨i.command.name, path.text, [], host.durationMs, i.command.readsJson⟩
  let finished := finish (g.display i.format) heading result
  let j := if finished.failed then j.log (failureRecord i.command.name) else j
  (.finished finished.exitCode finished.stdout (logLines j ++ finished.stderr), j)

/-- Reads the arguments of a command and runs it. -/
def Topic.run (host : Host) (g : Globals) (arguments : List String) (j : Log.Journal)
    (topic : Topic) : Ending × Log.Journal :=
  match topic.read j.files g.format arguments with
  | .error e => (.refused e, j)
  | .ok (.help text) => (.finished 0 (.plain text) (logLines j), j)
  | .ok .version => (.finished 0 (.plain versionLine) (logLines j), j)
  | .ok (.run invocation) => invocation.run host g j

/-- A run that only writes a text. -/
def Ending.ofText (text : String) : Ending := .finished 0 (.plain text) []

/-- One run of the program on files. -/
def run (host : Host) (files : Files) (arguments : List String) : Ending × Files :=
  match readGlobals files arguments with
  | .error e => (.refused e, files)
  | .ok (.help text) => (.ofText text, files)
  | .ok .version => (.ofText versionLine, files)
  | .ok (.run (_, [])) => (.ofText globalHelp, files)
  | .ok (.run (g, name :: rest)) =>
    match findTopic files name rest with
    | .error e => (.refused e, files)
    | .ok (.help text) => (.ofText text, files)
    | .ok .version => (.ofText versionLine, files)
    | .ok (.run topic) =>
      let previous : Log.Journal := { clock := host.clock, files }
      let (ending, j) := topic.run host g rest (previous.configure g.logSettings)
      (ending, (j.restore previous.logger).files)

end CaretQuery.CommandLine
