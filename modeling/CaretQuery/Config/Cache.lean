import CaretQuery.Config

/-!
# The configuration of one run

A run loads its configuration at most once. What has been loaded stays, whatever happens to the file
afterwards; a load that fails leaves nothing behind.
-/
namespace CaretQuery.Config

/-- The path of the configuration, and what has been loaded from it. -/
structure Cache where
  path : Path
  loaded : Option Loaded := none

namespace Cache

/-- The loaded configuration, and the record of a load that was needed. -/
def load (c : Cache) (files : Files) : Except LoadFault (Loaded × List Log.Record) :=
  match c.loaded with
  | some loaded => .ok (loaded, [])
  | none => (Config.load files c.path).map fun loaded => (loaded, [loaded.record])

/-- The cache after a load has been asked for. -/
def afterLoad (c : Cache) (files : Files) : Cache :=
  match c.load files with
  | .ok (loaded, _) => { c with loaded := some loaded }
  | .error _ => c

end Cache

/-! ## Runs -/

/-- What happens around a cache: its file is written or removed, it is asked for something, or a
new cache takes its place. -/
inductive Event where
  | write (content : String)
  | remove
  | askPath
  | askOperators
  | askPresence
  | renew

inductive Answer where
  | done
  | path (path : Path)
  | operators (names : List String)
  | presence (isPresent : Bool)
  | loadFault (fault : LoadFault)
  | fileFault (fault : FileFault)

/-- The files and the cache that a run works on. -/
structure RunState where
  files : Files
  cache : Cache

namespace RunState

/-- Removes the file of the configuration and makes its directory. -/
def clear (s : RunState) : Except FileFault Files :=
  (s.files.removeFile s.cache.path).ensureDirectories s.cache.path.parent

def replaceFile (s : RunState) (content : Option String) : Except FileFault Files :=
  match s.clear, content with
  | .error fault, _ => .error fault
  | .ok files, none => .ok files
  | .ok files, some text => files.write s.cache.path (Text.Utf8.encode text)

def put (s : RunState) (content : Option String) : Answer × RunState :=
  match s.replaceFile content with
  | .ok files => (.done, { s with files := files })
  | .error fault => (.fileFault fault, s)

def ask (s : RunState) (answer : Loaded → Answer) : Answer × RunState :=
  match s.cache.load s.files with
  | .error fault => (.loadFault fault, s)
  | .ok (loaded, _) => (answer loaded, { s with cache := s.cache.afterLoad s.files })

def step (s : RunState) : Event → Answer × RunState
  | .write content => s.put (some content)
  | .remove => s.put none
  | .askPath => (.path s.cache.path, s)
  | .askOperators => s.ask fun loaded => .operators loaded.operators.names
  | .askPresence => s.ask fun loaded => .presence loaded.isPresent
  | .renew => (.done, { s with cache := ⟨s.cache.path, none⟩ })

/-- The answers to a list of events, in order. -/
def run (s : RunState) : List Event → List Answer
  | [] => []
  | event :: events => (s.step event).1 :: (s.step event).2.run events

end RunState
end CaretQuery.Config
