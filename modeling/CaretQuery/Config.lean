import CaretQuery.Files.Tree
import CaretQuery.Log.Record
import CaretQuery.Operator.Builtin
import CaretQuery.Operator.Record
import CaretQuery.Toml.Reader

/-!
# Configuration

Where the configuration file is, which operator table its document describes, and how it is loaded.
A file that is missing stands for the built-in table. The faults of a document are looked for in a
fixed order: the section, its entries, its replace setting, the records, and a replacement by
nothing.
-/
namespace CaretQuery

/-! ## Location -/

/-- The settings of the environment; one that is unset is empty. -/
structure Environment where
  home : String := ""
  configHome : String := ""
  configFile : String := ""

namespace Environment

/-- The settings among the variables of the environment. -/
def ofVariables (settings : List (String × String)) : Environment :=
  let value (name : String) := ((settings.find? fun v => v.1 == name).map Prod.snd).getD ""
  { home := value "HOME"
    configHome := value "XDG_CONFIG_HOME"
    configFile := value "NOWQUERY_CONFIG" }

def withoutTrailingSlashes (text : String) : String :=
  String.ofList (text.toList.reverse.dropWhile fun c => c == '/').reverse

/-- The configuration directory of the user. One that is set counts only if it is absolute. -/
def configDirectory (env : Environment) : String :=
  if env.configHome.startsWith "/" then env.configHome
  else withoutTrailingSlashes env.home ++ "/.config"

/-- A name in a directory, with a slash between them unless the directory ends in one. -/
def nameIn (directory name : String) : String :=
  if directory.endsWith "/" then directory ++ name else directory ++ "/" ++ name

def defaultConfigPath (env : Environment) : Path :=
  .ofText (nameIn env.configDirectory "nowquery/config.toml")

end Environment

/-- The path of the configuration file: the given one, else that of the environment unless it is
blank, else the default one. -/
def configPath (env : Environment) : Option String → Path
  | some given => .ofText given
  | none =>
    let fromVariable := Text.trimString env.configFile
    if fromVariable = "" then env.defaultConfigPath else .ofText fromVariable

/-! ## Documents -/

inductive ConfigFault where
  | notTable
  | entriesNotTables
  | replaceNotBool
  | replaceByNothing
  | badTable (error : TableError)
  | notToml
  | unreadable (fault : FileFault)

def TableError.message : TableError → String
  | .invalidEntry index _ => s!"Invalid operator entry #{index}"
  | .duplicateName name => "Duplicate operator name: " ++ Text.quoted name

/-- The message of a fault of the file at a path. -/
def ConfigFault.message (path : Path) : ConfigFault → String
  | .notTable => path.text ++ ": [operators] must be a table"
  | .entriesNotTables => path.text ++ ": operators.entries must be an array of tables"
  | .replaceNotBool => path.text ++ ": operators.replace must be true or false"
  | .replaceByNothing => path.text ++ ": operators.replace requires at least one entry"
  | .badTable error => error.message
  | .notToml => path.text ++ ": invalid TOML"
  | .unreadable fault => path.text ++ ": cannot read config: " ++ fault.message

namespace Config

/-- The records of the operators section. -/
def entriesOf (settings : List (String × Node)) : Except ConfigFault (List Node) :=
  match Node.find? settings "entries" with
  | none => .ok []
  | some (.array records) =>
    if records.all Node.isTable then .ok records else .error .entriesNotTables
  | some _ => .error .entriesNotTables

def replaceOf (settings : List (String × Node)) : Except ConfigFault Bool :=
  match Node.find? settings "replace" with
  | none => .ok false
  | some (.bool b) => .ok b
  | some _ => .error .replaceNotBool

/-- The table that the operators section describes. -/
def tableOf (settings : List (String × Node)) : Except ConfigFault OperatorTable := do
  let records ← entriesOf settings
  let replace ← replaceOf settings
  let loaded ← (OperatorTable.ofRecords records).mapError .badTable
  if replace then
    if loaded.rows.isEmpty then .error .replaceByNothing else .ok loaded
  else (OperatorTable.builtin.mergedWith loaded.rows).mapError .badTable

/-- The table that a document describes, if it has an operators section. -/
def tableOfDocument (document : List (String × Node)) :
    Except ConfigFault (Option OperatorTable) :=
  match Node.find? document "operators" with
  | none | some .null => .ok none
  | some (.table entries) => (tableOf entries).map some
  | some _ => .error .notTable

/-! ## Loading -/

/-- Why a configuration cannot be loaded: a fault of the configuration, or one that is found below
it, in the bytes, the numbers or the path of the file. -/
inductive LoadFault where
  | config (fault : ConfigFault)
  | undecodable (fault : Text.Utf8.Fault)
  | tooManyDigits (count : Nat)
  | inaccessible (fault : FileFault)

/-- A loaded configuration. There is no table of its own where the built-in one is used. -/
structure Loaded where
  path : Path
  isPresent : Bool
  custom : Option OperatorTable

def Loaded.operators (l : Loaded) : OperatorTable := l.custom.getD .builtin

def tableOfContent (content : List UInt8) : Except LoadFault (Option OperatorTable) :=
  match Text.Utf8.decode content with
  | .error fault => .error (.undecodable fault)
  | .ok cs =>
    match Toml.read cs with
    | .error .invalid => .error (.config .notToml)
    | .error (.tooManyDigits count) => .error (.tooManyDigits count)
    | .ok document => (tableOfDocument document).mapError .config

/-- Loads the configuration at a path. -/
def load (files : Files) (path : Path) : Except LoadFault Loaded :=
  match files.isPresent path with
  | .error fault => .error (.inaccessible fault)
  | .ok false => .ok ⟨path, false, none⟩
  | .ok true =>
    match files.read path with
    | .error fault => .error (.config (.unreadable fault))
    | .ok content => (tableOfContent content).map fun custom => ⟨path, true, custom⟩

/-- The record of a configuration that has been loaded. -/
def Loaded.record (l : Loaded) : Log.Record :=
  let logger := Log.rootLogger ++ ".config"
  if l.isPresent then
    ⟨.info, logger, s!"loaded {l.operators.size} operators from " ++ l.path.text⟩
  else
    ⟨.debug, logger, "no config file at " ++ l.path.text ++ "; using default operators"⟩

/-- The content of a new configuration file. -/
def template : String :=
  "# nowquery configuration\n" ++
  "#\n" ++
  "# Entries below are added to the built-in operator table; an entry with\n" ++
  "# the same Name as a built-in operator replaces it.\n" ++
  "\n" ++
  "[operators]\n" ++
  "replace = false\n" ++
  "\n" ++
  "# [[operators.entries]]\n" ++
  "# Name = \"-contains\"\n" ++
  "# QueryOperator = \"LIKE\"\n" ++
  "# RequiresValue = true\n" ++
  "# Description = \"contains\"\n"

end Config
end CaretQuery
