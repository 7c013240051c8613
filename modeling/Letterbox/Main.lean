import Letterbox.Disk.Stored
import Letterbox.Program
import Std.Time.DateTime.Timestamp

/-!
# The command line

The part of the disk that a command line speaks of is read, the program runs on it, and what the run
made of it is written back.
-/

namespace Letterbox.Main

open CommandLine

/-- The number by which the system says that a directory is no file. -/
def directoryError : UInt32 := 21

/-- The path of a place. -/
def pathOf (place : Place) : String :=
  "/" ++ "/".intercalate place

/-- The place in which relative paths start. -/
def workingPlace : IO Place := do
  let path := (← IO.currentDir).toString
  return (FileTree.namesOf path).filter (· ≠ "")

/-- What is on disk at a place. -/
def nodeOnDisk? (place : Place) : IO (Option FileNode) := do
  match ← (IO.FS.readBinFile (pathOf place)).toBaseIO with
  | .ok content => return some (.file content.toList)
  | .error (.inappropriateType _ number _) =>
    return if number = directoryError then some .directory else none
  | .error _ => return none

/-- The places that one comes by on a path, the last one first. -/
def placesOn (start : Place) (names : List String) : List Place :=
  names.foldl
    (fun places name =>
      let here := places.headD start
      if name = "" ∨ name = "." then places
      else if name = ".." then here.dropLast :: places
      else (here ++ [name]) :: places)
    []

/-- The texts of a command line that may be paths. -/
def possiblePaths (environment : List (String × String)) (arguments : List String) : List String :=
  arguments ++ arguments.filterMap (fun word => (Scan.cutLong word.toList).2)
    ++ environment.map (·.2) ++ logDirectoryOption.fallback.toList

/-- The options that the environment gives. -/
def readEnvironment : IO (List (String × String)) :=
  (globalOptions.filterMap (·.environmentName)).filterMapM fun name => do
    return (← IO.getEnv name).map fun value => (name, value)

/-- The index that rests in a directory, if one does. -/
def readStored (disk : Disk) (place : Place) : IO Disk := do
  match ← nodeOnDisk? (place ++ [Disk.markerName]) with
  | some (.file content) =>
    match (Text.Utf8.decode? content).bind StoredIndex.ofText? with
    | some stored => return disk.store place stored
    | none =>
      return { disk with files := disk.files.put (place ++ [Disk.markerName]) (.file content) }
  | _ => return disk

/-- The disk with what is at a place. -/
def readPlace (disk : Disk) (place : Place) : IO Disk := do
  match ← nodeOnDisk? place with
  | some node =>
    let disk := { disk with files := disk.files.put place node }
    if node = .directory then readStored disk place else return disk
  | none => return disk

/-- The part of the disk that some paths lead to. -/
def readDisk (paths : List String) : IO Disk := do
  let home ← workingPlace
  let start : FileTree := ⟨home, []⟩
  let onTheWay := (placesOn [] home).map fun place => (place, FileNode.directory)
  let places := paths.flatMap fun path => placesOn (start.startOf path) (FileTree.namesOf path)
  places.foldlM readPlace { files := ⟨home, onTheWay⟩ }

/-- Makes the directories that a run made, and writes the indexes that rest in directories. -/
def writeDisk (before after : Disk) : IO Unit := do
  for (place, node) in after.files.nodes do
    if node = .directory ∧ ! before.files.isDirectoryAt place then
      IO.FS.createDirAll (pathOf place)
  for (place, stored) in after.stored do
    IO.FS.writeFile (pathOf (place ++ [Disk.markerName])) stored.toText

/-- The clock of a run. It stands still: it is read once, before the run. -/
def clock : IO Clock := do
  let now ← Std.Time.Timestamp.now
  let moment := (Instant.of? now.toSecondsSinceUnixEpoch.val 0).getD .epoch
  return fun _ => moment

/-- What is said of a run that did not end well. -/
def complaint : Program.Outcome → Option String
  | .usage fault _ => if fault.isRequest then none else some "error: the command line is not understood"
  | .done _ => none
  | .failed cause => some ("Error: " ++ cause.message)

/-- Runs the program on the disk. -/
def run (arguments : List String) : IO UInt32 := do
  let environment ← readEnvironment
  let disk ← readDisk (possiblePaths environment arguments)
  let (after, outcome) := Program.run disk ⟨environment, ← clock⟩ arguments
  writeDisk disk after
  IO.print outcome.output
  match complaint outcome with
  | some text => IO.eprintln text
  | none => pure ()
  return UInt32.ofNat outcome.exitCode

end Letterbox.Main

/-- Runs the program with the arguments of the command line. -/
def main (arguments : List String) : IO UInt32 :=
  Letterbox.Main.run arguments
