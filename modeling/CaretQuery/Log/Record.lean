import CaretQuery.Query.Build

/-!
# Log records

A record has a level, the name of its logger and a message. Every query that has been built leaves
one record.
-/
namespace CaretQuery.Log

/-- The severity of a record. Five of them have a name. -/
structure Level where
  rank : Int
  deriving DecidableEq, Repr

namespace Level

def debug : Level := ⟨10⟩

def info : Level := ⟨20⟩

def warning : Level := ⟨30⟩

def error : Level := ⟨40⟩

def critical : Level := ⟨50⟩

/-- The names of levels. A handler that takes everything has a level below all severities. -/
def named : List (Level × String) :=
  [(⟨0⟩, "NOTSET"), (debug, "DEBUG"), (info, "INFO"), (warning, "WARNING"), (error, "ERROR"),
    (critical, "CRITICAL")]

def name (level : Level) : String :=
  ((named.find? fun entry => entry.1 == level).map Prod.snd).getD ("Level " ++ toString level.rank)

def ofName? (name : String) : Option Level :=
  (named.find? fun entry => entry.2 == name).map Prod.fst

instance : LE Level := ⟨fun a b => a.rank ≤ b.rank⟩

instance (a b : Level) : Decidable (a ≤ b) := inferInstanceAs (Decidable (a.rank ≤ b.rank))

theorem le_refl (a : Level) : a ≤ a := Int.le_refl a.rank

/-- The less severe of two levels. -/
def min (a b : Level) : Level := if a ≤ b then a else b

end Level

structure Record where
  level : Level
  logger : String
  message : String
  deriving DecidableEq, Repr

/-- The root of the loggers that are configured together. -/
def rootLogger : String := "nowquery"

def Record.text (r : Record) : String := r.level.name ++ " " ++ r.logger ++ ": " ++ r.message

/-- The record of a query that has been built. -/
def ofQuery (q : Query) : Record :=
  ⟨.debug, rootLogger ++ ".query", "built " ++ q.mode.name ++ " query: " ++ q.text⟩

end CaretQuery.Log
