import CaretQuery.CommandLine.Failure

/-!
# Reports

What a command leaves: its data or its error, with warnings and the path of the configuration. As
JSON a report is one line, with the same members in the same order every time.
-/
namespace CaretQuery.CommandLine

structure Report where
  command : String
  data : Json := .null
  error : Option ErrorInfo := none
  ok : Bool := error.isNone
  warnings : List String := []
  durationMs : Nat := 0
  configPath : Option String := none

def ErrorInfo.toJson (e : ErrorInfo) : Json :=
  .object [("type", .str e.kind), ("message", .str e.message), ("hint", .ofOption .str e.hint),
    ("details", .ofOption .object e.details)]

namespace Report

def runInfo (r : Report) : Json :=
  .object [("durationMs", .int r.durationMs), ("configPath", .ofOption .str r.configPath)]

def toJson (r : Report) : Json :=
  .object [("ok", .bool r.ok), ("command", .str r.command), ("data", r.data),
    ("warnings", .array (r.warnings.map .str)), ("meta", r.runInfo),
    ("error", .ofOption ErrorInfo.toJson r.error)]

/-- The report as one line of JSON. -/
def line (r : Report) : String := r.toJson.write ++ "\n"

end Report
end CaretQuery.CommandLine
