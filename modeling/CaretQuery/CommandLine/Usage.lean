import CaretQuery.Text.Quoted
import CaretQuery.Text.Similar

/-!
# Usage errors

What is wrong with a command line itself, before any command is run. A name that is not known is
reported with the known names that come close to it.
-/
namespace CaretQuery.CommandLine

inductive UsageError where
  | noSuchOption (name : String) (known : List String)
  | noSuchCommand (name : String) (known : List String)
  | needsArgument (option : String)
  | takesNoValue (option : String)
  | notAChoice (option value : String) (choices : List String)
  | isDirectory (option path : String)
  | extraArguments (arguments : List String)
  | missingCommand
  | noArguments (help : String)
  deriving DecidableEq, Repr

namespace UsageError

/-- The class of error that is reported. -/
def kind : UsageError → String
  | .noSuchOption .. => "NoSuchOption"
  | .noSuchCommand .. => "NoSuchCommand"
  | .needsArgument _ | .takesNoValue _ => "BadOptionUsage"
  | .notAChoice .. | .isDirectory .. => "BadParameter"
  | .extraArguments _ | .missingCommand => "UsageError"
  | .noArguments _ => "NoArgsIsHelpError"

def quotedList (words : List String) : String := ", ".intercalate (words.map Text.quoted)

/-- A proposal of the known words that come close to a word. -/
def proposal (word : String) (known : List String) : String :=
  match Text.similarWords word known with
  | [] => ""
  | [similar] => " Did you mean " ++ Text.quoted similar ++ "?"
  | similar => " (Did you mean one of: " ++ quotedList similar ++ "?)"

def invalidValue (option problem : String) : String :=
  "Invalid value for " ++ Text.quoted option ++ ": " ++ problem

def message : UsageError → String
  | .noSuchOption name known =>
    "No such option " ++ Text.quoted name ++ "." ++ proposal name known
  | .noSuchCommand name known =>
    "No such command " ++ Text.quoted name ++ "." ++ proposal name known
  | .needsArgument option => "Option " ++ Text.quoted option ++ " requires an argument."
  | .takesNoValue option => "Option " ++ Text.quoted option ++ " does not take a value."
  | .notAChoice option value choices =>
    invalidValue option (Text.quoted value ++ " is not one of " ++ quotedList choices ++ ".")
  | .isDirectory option path =>
    invalidValue option ("File " ++ Text.quoted path ++ " is a directory.")
  | .extraArguments arguments =>
    "Got unexpected extra argument" ++ (if arguments.length = 1 then "" else "s") ++ " (" ++
      " ".intercalate arguments ++ ")"
  | .missingCommand => "Missing command."
  | .noArguments help => help

end UsageError
end CaretQuery.CommandLine
