import CaretQuery.Text.Split

/-!
# Paths

A path is a root and a list of names. Reading a path drops empty names and single dots and keeps
double dots; two leading slashes are a root of their own.
-/
namespace CaretQuery

structure Path where
  root : String
  names : List String
  deriving DecidableEq, Repr

namespace Path

/-- The names between the slashes of a text, dropped ones included. -/
def pieces (text : String) : List String := (Text.splitAt '/' text.toList).map String.ofList

def rootOf (text : String) : String :=
  match text.toList with
  | '/' :: '/' :: '/' :: _ => "/"
  | '/' :: '/' :: _ => "//"
  | '/' :: _ => "/"
  | _ => ""

def ofText (text : String) : Path where
  root := rootOf text
  names := (pieces text).filter fun name => name != "" && name != "."

def text (p : Path) : String :=
  if p.root = "" ∧ p.names = [] then "." else p.root ++ "/".intercalate p.names

def isAbsolute (p : Path) : Bool := p.root != ""

/-- The path without its last name. -/
def parent (p : Path) : Path := { p with names := p.names.dropLast }

/-- Takes double dots out together with the name before them. The kept names come last first. -/
def collapseNames (kept : List String) : List String → List String
  | [] => kept.reverse
  | name :: names =>
    if name = ".." then collapseNames kept.tail names else collapseNames (name :: kept) names

/-- The path without double dots. -/
def collapse (p : Path) : Path := { p with names := collapseNames [] p.names }

end Path
end CaretQuery
