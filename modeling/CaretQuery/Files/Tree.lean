import CaretQuery.Files.Path
import CaretQuery.Text.Utf8

/-!
# The file tree

Files and directories in a tree. A path is walked name by name, from the root or from the current
directory, and the first name that cannot be taken is the error.
-/
namespace CaretQuery

inductive Entry where
  | file (content : List UInt8)
  | directory (entries : List (String × Entry))

inductive FileError where
  | notFound
  | alreadyExists
  | notDirectory
  | isDirectory
  | nameTooLong
  deriving DecidableEq, Repr

namespace FileError

def number : FileError → Nat
  | .notFound => 2
  | .alreadyExists => 17
  | .notDirectory => 20
  | .isDirectory => 21
  | .nameTooLong => 36

def reason : FileError → String
  | .notFound => "No such file or directory"
  | .alreadyExists => "File exists"
  | .notDirectory => "Not a directory"
  | .isDirectory => "Is a directory"
  | .nameTooLong => "File name too long"

/-- The kind of error that a report names. -/
def kind : FileError → String
  | .notFound => "FileNotFoundError"
  | .alreadyExists => "FileExistsError"
  | .notDirectory => "NotADirectoryError"
  | .isDirectory => "IsADirectoryError"
  | .nameTooLong => "OSError"

end FileError

/-- An error with the path at which it arose. -/
structure FileFault where
  error : FileError
  path : String
  deriving DecidableEq, Repr

def FileFault.message (fault : FileFault) : String :=
  s!"[Errno {fault.error.number}] {fault.error.reason}: " ++ Text.quoted fault.path

abbrev Entries := List (String × Entry)

namespace Entries

def child? (entries : Entries) (name : String) : Option Entry :=
  (entries.find? fun entry => entry.1 == name).map Prod.snd

/-- The entry that a list of names leads to. -/
def entryAt? (entries : Entries) : List String → Option Entry
  | [] => some (.directory entries)
  | name :: names =>
    match entries.child? name, names with
    | some entry, [] => some entry
    | some (.directory inner), names => entryAt? inner names
    | _, _ => none

def setChild (entries : Entries) (name : String) (entry : Entry) : Entries :=
  if entries.any fun old => old.1 == name then
    entries.map fun old => if old.1 == name then (name, entry) else old
  else entries ++ [(name, entry)]

/-- Puts an entry at a place whose directory exists. -/
def setAt (entries : Entries) : List String → Entry → Entries
  | [], _ => entries
  | [name], entry => entries.setChild name entry
  | name :: names, entry =>
    match entries.child? name with
    | some (.directory inner) => entries.setChild name (.directory (setAt inner names entry))
    | _ => entries

def removeAt (entries : Entries) : List String → Entries
  | [] => entries
  | [name] => entries.filter fun old => old.1 != name
  | name :: names =>
    match entries.child? name with
    | some (.directory inner) => entries.setChild name (.directory (removeAt inner names))
    | _ => entries

end Entries

/-- The entries of the root directory, and the names that lead from there to the current
directory. -/
structure Files where
  root : Entries := []
  current : List String := []

namespace Files

def maxNameBytes : Nat := 255

def maxPathBytes : Nat := 4095

/-- Takes one name from a place, which must be a directory. The root is above itself. -/
def step (files : Files) (place : List String) (name : String) :
    Except FileError (List String) :=
  match files.root.entryAt? place with
  | some (.directory entries) =>
    if name = "" ∨ name = "." then .ok place
    else if name = ".." then .ok place.dropLast
    else if maxNameBytes < (Text.Utf8.encode name).length then .error .nameTooLong
    else if (Entries.child? entries name).isSome then .ok (place ++ [name])
    else .error .notFound
  | _ => .error .notDirectory

def walk (files : Files) (place : List String) : List String → Except FileError (List String)
  | [] => .ok place
  | name :: names =>
    match files.step place name with
    | .error e => .error e
    | .ok place => files.walk place names

def start (files : Files) (absolute : Bool) : List String := if absolute then [] else files.current

/-- The names that lead from the root to where a path leads; something must be there. -/
def locate (files : Files) (p : Path) : Except FileError (List String) :=
  if maxPathBytes < (Text.Utf8.encode p.text).length then .error .nameTooLong
  else files.walk (files.start p.isAbsolute) p.names

def entryOf (files : Files) (place : List String) : Entry :=
  (files.root.entryAt? place).getD (.directory [])

def stat (files : Files) (p : Path) : Except FileError Entry :=
  (files.locate p).map files.entryOf

/-- The path from the root, without double dots. -/
def absolute (files : Files) (p : Path) : Path :=
  if p.isAbsolute then p.collapse else Path.collapse ⟨"/", files.current ++ p.names⟩

/-- Whether a path exists. A path that cannot be looked up for another reason is an error. -/
def isPresent (files : Files) (p : Path) : Except FileFault Bool :=
  match files.stat p with
  | .ok _ => .ok true
  | .error .nameTooLong => .error ⟨.nameTooLong, p.text⟩
  | .error _ => .ok false

def isDirectory (files : Files) (p : Path) : Bool :=
  match files.stat p with
  | .ok (.directory _) => true
  | _ => false

/-- Whether a text, taken as it is, names a directory. -/
def namesDirectory (files : Files) (text : String) : Bool :=
  text != "" && text.utf8ByteSize ≤ maxPathBytes &&
    match (files.walk (files.start (text.startsWith "/")) (Path.pieces text)).map files.entryOf with
    | .ok (.directory _) => true
    | _ => false

def read (files : Files) (p : Path) : Except FileFault (List UInt8) :=
  match files.stat p with
  | .ok (.file content) => .ok content
  | .ok (.directory _) => .error ⟨.isDirectory, p.text⟩
  | .error e => .error ⟨e, p.text⟩

/-- The place that a path names whether or not something is there; its directory must exist. -/
def target (files : Files) (p : Path) : Except FileError (List String × Option Entry) :=
  match files.locate p with
  | .ok place => .ok (place, files.root.entryAt? place)
  | .error .notFound =>
    match p.names.getLast?, files.locate p.parent with
    | some name, .ok place => .ok (place ++ [name], none)
    | _, .error e => .error e
    | none, _ => .error .notFound
  | .error e => .error e

def put (files : Files) (place : List String) (entry : Entry) : Files :=
  { files with root := files.root.setAt place entry }

/-- Changes the content of a file, which is made if it is missing. -/
def update (files : Files) (p : Path) (f : List UInt8 → List UInt8) : Except FileFault Files :=
  match files.target p with
  | .ok (place, none) => .ok (files.put place (.file (f [])))
  | .ok (place, some (.file content)) => .ok (files.put place (.file (f content)))
  | .ok (_, some (.directory _)) => .error ⟨.isDirectory, p.text⟩
  | .error e => .error ⟨e, p.text⟩

def write (files : Files) (p : Path) (content : List UInt8) : Except FileFault Files :=
  files.update p fun _ => content

def append (files : Files) (p : Path) (content : List UInt8) : Except FileFault Files :=
  files.update p (· ++ content)

def makeDirectory (files : Files) (p : Path) : Except FileError Files :=
  match files.target p with
  | .ok (place, none) => .ok (files.put place (.directory []))
  | .ok (_, some _) => .error .alreadyExists
  | .error e => .error e

/-- Makes a directory; one that is already there is left as it is. -/
def ensureDirectory (files : Files) (p : Path) : Except FileFault Files :=
  match files.makeDirectory p with
  | .ok files => .ok files
  | .error e => if files.isDirectory p then .ok files else .error ⟨e, p.text⟩

/-- Makes a directory and those above it that are missing. The names are given last first. -/
def ensureAll (files : Files) (root : String) : List String → Except FileFault Files
  | [] => files.ensureDirectory ⟨root, []⟩
  | name :: above =>
    match files.makeDirectory ⟨root, (name :: above).reverse⟩ with
    | .error .notFound =>
      match files.ensureAll root above with
      | .error fault => .error fault
      | .ok files => files.ensureDirectory ⟨root, (name :: above).reverse⟩
    | _ => files.ensureDirectory ⟨root, (name :: above).reverse⟩

def ensureDirectories (files : Files) (p : Path) : Except FileFault Files :=
  files.ensureAll p.root p.names.reverse

/-- Removes a file, if there is one. -/
def removeFile (files : Files) (p : Path) : Files :=
  match files.target p with
  | .ok (place, some (.file _)) => { files with root := files.root.removeAt place }
  | _ => files

/-- The text of a file, with every line end written as a line feed. -/
def universalLines : List Char → List Char
  | [] => []
  | '\r' :: '\n' :: rest => '\n' :: universalLines rest
  | '\r' :: rest => '\n' :: universalLines rest
  | c :: rest => c :: universalLines rest

end Files
end CaretQuery
