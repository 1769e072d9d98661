import CaretQuery.CommandLine.Run

/-!
# The program

The program takes a snapshot of the files that its arguments name, runs on that, and writes back
what has changed.
-/
namespace CaretQuery

open CommandLine

/-- The files that a run may read or write. -/
def usedPaths (env : Environment) (arguments : List String) : List Path :=
  match readGlobals {} arguments with
  | .ok (.run (g, rest)) =>
    let filterFiles := match Scan.scan CommandForm.build.allSpecs true rest with
      | .ok s => s.values "--filter-file"
      | .error _ => []
    configPath env g.config :: (g.logFile.toList ++ filterFiles).map .ofText
  | _ => []

/-- The places on the way to a path, the nearest to the root first. -/
def placesTo (files : Files) (p : Path) : List (List String) :=
  let names := (files.absolute p).names
  (List.range names.length).map fun n => names.take (n + 1)

def placeText (place : List String) : String := "/" ++ "/".intercalate place

/-- What is at a path. Reading a directory fails with the error number 21. -/
def readEntry (path : String) : IO (Option Entry) := do
  try
    return some (.file (← IO.FS.readBinFile path).toList)
  catch e =>
    match e with
    | .inappropriateType _ code _ => return if code == 21 then some (.directory []) else none
    | _ => return none

def snapshotOf (files : Files) (places : List (List String)) : IO Files := do
  let mut files := files
  for place in places do
    if (files.root.entryAt? place).isNone then
      if let some entry ← readEntry (placeText place) then
        files := files.put place entry
  return files

/-- Writes what has changed at a place. -/
def writeBack (before after : Files) (place : List String) : IO Unit := do
  match before.root.entryAt? place, after.root.entryAt? place with
  | none, some (.directory _) => IO.FS.createDirAll (placeText place)
  | some (.file old), some (.file new) =>
    if old != new then IO.FS.writeBinFile (placeText place) ⟨new.toArray⟩
  | none, some (.file new) => IO.FS.writeBinFile (placeText place) ⟨new.toArray⟩
  | _, _ => pure ()

def rowText (cells : List String) : String := "| " ++ " | ".intercalate cells ++ " |"

def lineText : Line → String
  | .text text => text
  | .row cells => rowText cells

def outputText : Output → String
  | .plain text => text
  | .screen lines => String.join (lines.map fun line => lineText line ++ "\n")

partial def readAll (stream : IO.FS.Stream) : IO (List UInt8) := do
  let bytes ← stream.read 65536
  if bytes.isEmpty then return [] else return bytes.toList ++ (← readAll stream)

def readVariable (name : String) : IO (String × String) := do
  return (name, (← IO.getEnv name).getD "")

def runProgram (arguments : List String) : IO UInt32 := do
  let settings ← ["HOME", "XDG_CONFIG_HOME", "NOWQUERY_CONFIG"].mapM readVariable
  let env := Environment.ofVariables settings
  let current := (Path.ofText (← IO.currentDir).toString).names
  let paths := usedPaths env arguments
  let places := ((Path.mk "" []) :: paths).flatMap (placesTo ⟨[], current⟩)
  let before ← snapshotOf ⟨[], current⟩ places
  let stdin ← if paths.any fun p => p.text == "-" then readAll (← IO.getStdin) else pure []
  let host : Host := {
    environment := env
    stdin
    runtimeVersion := "unknown"
    platform := "unknown"
    clock := toString (← IO.monoMsNow) }
  let (ending, after) := run host before arguments
  for place in places do writeBack before after place
  match ending with
  | .refused e =>
    IO.eprintln ("Error: " ++ e.message)
    return refusedExitCode.toNat.toUInt32
  | .finished exitCode stdout stderr =>
    IO.eprint (Text.backslashed (outputText (.screen stderr)))
    IO.print (outputText stdout)
    return exitCode.toNat.toUInt32

end CaretQuery

def main (arguments : List String) : IO UInt32 := CaretQuery.runProgram arguments
