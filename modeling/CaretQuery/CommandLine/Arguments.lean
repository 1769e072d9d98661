import CaretQuery.CommandLine.Display
import CaretQuery.CommandLine.Options
import CaretQuery.Value

/-!
# Arguments

The command line has options for the whole run, the name of a command, and the arguments of that
command. Help and version come before everything else that is asked for; the values of options are
then checked in the order in which the options were first given.
-/
namespace CaretQuery.CommandLine

def programName : String := "nowquery"

def programVersion : String := "0.1.0"

/-- The help for the program or for a command of it. -/
def helpText (title : List String) (specs : List OptionSpec) (commands : List String) : String :=
  "Usage: " ++ " ".intercalate (programName :: title) ++ "\n\nOptions:\n" ++
    String.join (specs.map OptionSpec.line) ++
    (if commands.isEmpty then "" else "\nCommands:\n") ++
    String.join (commands.map fun name => "  " ++ name ++ "\n")

/-! ## Checks -/

/-- A test of an option's value. -/
structure Check where
  option : String
  test : Files → String → Option UsageError

def choiceCheck (option : String) (choices : List String) (normal : String → String) : Check :=
  ⟨option, fun _ value =>
    if choices.contains (normal value) then none else some (.notAChoice option value choices)⟩

def formatCheck : Check := choiceCheck "--output" (Format.all.map Format.word) id

/-- A value that must not name a directory; a dash may stand for a stream. -/
def fileCheck (option : String) (dashAllowed : Bool) : Check :=
  ⟨option, fun files value =>
    if dashAllowed && value == "-" then none
    else if files.namesDirectory value then some (.isDirectory option value)
    else none⟩

/-- The first fault that the checks find in the values of a scan. -/
def firstFault (files : Files) (checks : List Check) (s : Scan) : Option UsageError :=
  s.names.findSome? fun name =>
    (checks.find? fun check => check.option == name).bind fun check =>
      (s.value? name).bind (check.test files)

def runChecks (files : Files) (checks : List Check) (s : Scan) : Except UsageError Unit :=
  match firstFault files checks s with
  | some e => .error e
  | none => .ok ()

def helpSpec : OptionSpec := { name := "--help", short := some 'h' }

def jsonSpec : OptionSpec := { name := "--json" }

def outputSpec : OptionSpec := { name := "--output", takesValue := true }

/-! ## The whole run -/

/-- The options of the whole run. -/
structure Globals where
  format : Format := .table
  quiet : Bool := false
  verbosity : Nat := 0
  config : Option String := none
  logFile : Option String := none
  logFileEnabled : Bool := true
  deriving DecidableEq, Repr

/-- What is asked for: the help or the version of the program, or a run. -/
inductive Wish (α : Type) where
  | help (text : String)
  | version
  | run (a : α)

def globalSpecs : List OptionSpec :=
  [outputSpec, jsonSpec, { name := "--quiet", short := some 'q' },
    { name := "-v", short := some 'v' }, { name := "--config", takesValue := true },
    { name := "--log-file", takesValue := true }, { name := "--no-log-file" },
    { name := "--version" }, helpSpec]

def topicNames : List String := ["build", "operators", "config", "version"]

def globalHelp : String := helpText ["[OPTIONS]", "COMMAND", "[ARGS]..."] globalSpecs topicNames

def globalChecks : List Check :=
  [formatCheck, fileCheck "--config" false, fileCheck "--log-file" false]

def Globals.ofScan (s : Scan) : Globals where
  format :=
    if s.has "--json" then .json else ((s.value? "--output").bind Format.ofWord?).getD .table
  quiet := s.has "--quiet"
  verbosity := s.count "-v"
  config := s.value? "--config"
  logFile := (s.value? "--log-file").filter fun file => file != ""
  logFileEnabled := !s.has "--no-log-file"

/-- Reads the options of the whole run; what is left are the command and its arguments. -/
def readGlobals (files : Files) (arguments : List String) :
    Except UsageError (Wish (Globals × List String)) := do
  let s ← Scan.scan globalSpecs false arguments
  match s.first? ["--help", "--version"] with
  | some "--help" => .ok (.help globalHelp)
  | some _ => .ok .version
  | none =>
    runChecks files globalChecks s
    .ok (.run (.ofScan s, s.rest))

/-! ## Commands -/

structure BuildArguments where
  filter : Option String := none
  filterFile : Option String := none
  sort : Option String := none
  orderBy : Option String := none
  direction : Option Direction := none
  exact : List String := []
  contains : List String := []
  deriving DecidableEq, Repr

inductive Command where
  | build (arguments : BuildArguments)
  | operators
  | configPath
  | configInit (force : Bool)
  | version
  deriving DecidableEq, Repr

def Command.name : Command → String
  | .build _ => "build"
  | .operators => "operators"
  | .configPath => "config path"
  | .configInit _ => "config init"
  | .version => "version"

/-- A command with the format of its report. -/
structure Invocation where
  command : Command
  format : Format
  deriving DecidableEq, Repr

/-- The format after the format options of a command, taken where each was first given. -/
def formatAfter (s : Scan) (format : Format) : Format :=
  s.names.foldl (fun format name =>
    if name = "--json" then .json
    else if name = "--output" then ((s.value? name).bind Format.ofWord?).getD format
    else format) format

/-- The long s counts as an s where letter case does not matter. -/
def foldCase (word : String) : String :=
  String.ofList (word.toList.map fun c => if c = 'ſ' then 's' else c.toLower)

def directionWords : List String := [Direction.asc, .desc].map Direction.word

def buildSpecs : List OptionSpec :=
  [{ name := "--filter", takesValue := true }, { name := "--filter-file", takesValue := true },
    { name := "--sort", takesValue := true }, { name := "--order-by", takesValue := true },
    { name := "--order-direction", takesValue := true },
    { name := "--match-exact", takesValue := true },
    { name := "--match-contains", takesValue := true }]

def buildChecks : List Check :=
  [fileCheck "--filter-file" true, choiceCheck "--order-direction" directionWords foldCase]

def BuildArguments.ofScan (s : Scan) : BuildArguments where
  filter := s.value? "--filter"
  filterFile := s.value? "--filter-file"
  sort := s.value? "--sort"
  orderBy := s.value? "--order-by"
  direction := (s.value? "--order-direction").bind fun word => Direction.ofWord? (foldCase word)
  exact := s.values "--match-exact"
  contains := s.values "--match-contains"

/-- A command by its words, its own options and their checks. -/
structure CommandForm where
  words : List String
  specs : List OptionSpec := []
  checks : List Check := []
  command : Scan → Command

namespace CommandForm

def build : CommandForm where
  words := ["build"]
  specs := buildSpecs
  checks := buildChecks
  command := fun s => .build (.ofScan s)

def operators : CommandForm := { words := ["operators"], command := fun _ => .operators }

def configPath : CommandForm := { words := ["config", "path"], command := fun _ => .configPath }

def configInit : CommandForm where
  words := ["config", "init"]
  specs := [{ name := "--force" }]
  command := fun s => .configInit (s.has "--force")

def version : CommandForm := { words := ["version"], command := fun _ => .version }

def allSpecs (f : CommandForm) : List OptionSpec := f.specs ++ [jsonSpec, outputSpec, helpSpec]

def help (f : CommandForm) : String := helpText (f.words ++ ["[OPTIONS]"]) f.allSpecs []

/-- Reads the arguments of a command. -/
def read (f : CommandForm) (files : Files) (format : Format) (arguments : List String) :
    Except UsageError (Wish Invocation) := do
  let s ← Scan.scan f.allSpecs true arguments
  if s.has "--help" then .ok (.help f.help)
  else
    runChecks files (f.checks ++ [formatCheck]) s
    if s.rest.isEmpty then .ok (.run ⟨f.command s, formatAfter s format⟩)
    else .error (.extraArguments s.rest)

end CommandForm

/-! ## Names of commands -/

/-- What a name at the top stands for: a command, or the commands on the configuration. -/
inductive Topic where
  | command (form : CommandForm)
  | config

def Topic.named? : String → Option Topic
  | "build" => some (.command .build)
  | "operators" => some (.command .operators)
  | "config" => some .config
  | "version" => some (.command .version)
  | _ => none

def configNames : List String := ["path", "init"]

def configHelp : String :=
  helpText ["config", "[OPTIONS]", "COMMAND", "[ARGS]..."] [helpSpec] configNames

def configCommand? : String → Option CommandForm
  | "path" => some .configPath
  | "init" => some .configInit
  | _ => none

/-- An unknown name that looks like an option is first read as one. -/
def unknownName (reread : Except UsageError (Wish α)) (name : String) (known : List String) :
    Except UsageError (Wish β) :=
  if name.startsWith "-" then
    match reread with
    | .error e => .error e
    | .ok (.help text) => .ok (.help text)
    | .ok .version => .ok .version
    | .ok (.run _) => .error (.noSuchCommand name known)
  else .error (.noSuchCommand name known)

def findTopic (files : Files) (name : String) (arguments : List String) :
    Except UsageError (Wish Topic) :=
  match Topic.named? name with
  | some topic => .ok (.run topic)
  | none => unknownName (readGlobals files (name :: arguments)) name topicNames

/-- Reads what stands before the name of a command on the configuration. -/
def readConfigOptions (arguments : List String) : Except UsageError (Wish (List String)) := do
  let s ← Scan.scan [helpSpec] false arguments
  if s.has "--help" then .ok (.help configHelp) else .ok (.run s.rest)

def readConfigCommand (files : Files) (format : Format) (arguments : List String) :
    Except UsageError (Wish Invocation) :=
  if arguments.isEmpty then .error (.noArguments configHelp)
  else
    match readConfigOptions arguments with
    | .error e => .error e
    | .ok (.help text) => .ok (.help text)
    | .ok .version => .ok .version
    | .ok (.run []) => .error .missingCommand
    | .ok (.run (name :: rest)) =>
      match configCommand? name with
      | some form => form.read files format rest
      | none => unknownName (readConfigOptions (name :: rest)) name configNames

def Topic.read (files : Files) (format : Format) (arguments : List String) :
    Topic → Except UsageError (Wish Invocation)
  | .command form => form.read files format arguments
  | .config => readConfigCommand files format arguments

end CaretQuery.CommandLine
