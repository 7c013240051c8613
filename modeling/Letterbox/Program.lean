import Letterbox.CommandLine.Help
import Letterbox.Criterion.Json
import Letterbox.Disk
import Letterbox.Import

/-!
# The program

One run of the program on a disk: its command line is read, the index is opened, one command is carried
out, and the index is closed again, whether the command worked or not.
-/

namespace Letterbox.Program

open CommandLine

/-- How a run ends. -/
inductive Outcome where
  /-- The command line was not carried out. -/
  | usage (fault : UsageFault) (text : String)
  | done (output : String)
  | failed (cause : Failure)

namespace Outcome

/-- The exit code: 2 for a command line that is wrong, 1 for a failure. -/
def exitCode : Outcome → Nat
  | usage fault _ => if fault.isRequest then 0 else 2
  | done _ => 0
  | failed _ => 1

/-- What the program writes on its output. -/
def output : Outcome → String
  | usage fault text => if fault.isRequest then text else ""
  | done output => output
  | failed _ => ""

end Outcome

/-- The surroundings of a run. The clock shows something new at each reading. -/
structure Surroundings where
  environment : List (String × String)
  clock : Clock

/-- The flags that texts name; blanks around them do not count, and blank texts name none. -/
def flagsNamed (texts : List String) : Flags :=
  .ofList (((texts.map fun text => Text.trim text.toList).filter (! ·.isEmpty)).map fun letters =>
    Flag.ofText (String.ofList letters))

/-- A JSON value on lines of its own. -/
def jsonOutput (value : Json) : String :=
  value.indented ++ "\n"

/-- Carries out a command on an index. -/
def execute (files : FileTree) (clock : Clock) (index : Index) :
    Command → Index × Except Failure String
  | .append mailbox first flags paths =>
    let (next, report) := index.importFiles files ⟨.named mailbox, flagsNamed flags, clock⟩ first paths
    (next, .ok (jsonOutput report.toJson))
  | .importArchive mailbox flags path =>
    match index.importArchive files ⟨.named mailbox, flagsNamed flags, clock⟩ path with
    | .ok (next, report) => (next, .ok (jsonOutput report.toJson))
    | .error cause => (index, .error cause)
  | .search mailbox text =>
    match Criterion.ofText? text with
    | none => (index, .error .malformedCriterion)
    | some criterion =>
      match index.search (.named mailbox) criterion with
      | .ok uids => (index, .ok (String.join (uids.map fun uid => toString uid.toNat ++ "\n")))
      | .error cause => (index, .error cause)
  | .setFlags mailbox one other flags =>
    match index.update (.named mailbox) (.between one other) (flagsNamed flags) with
    | .ok (next, count) => (next, .ok (toString count ++ " messages updated\n"))
    | .error cause => (index, .error cause)
  | .expunge mailbox one other =>
    match index.delete (.named mailbox) (.between one other) with
    | .ok next => (next, .ok "")
    | .error cause => (index, .error cause)
  | .statistics => (index, .ok (jsonOutput index.statistics.toJson))

/-- Makes the directory of the log if the log goes to files. -/
def prepareLog (disk : Disk) (settings : Settings) : Disk × Except Failure Unit :=
  if settings.logToFile then
    match disk.files.makeDirectories settings.logDirectory with
    | (files, .ok ()) => ({ disk with files }, .ok ())
    | (files, .error fault) => ({ disk with files }, .error (.file fault))
  else (disk, .ok ())

/-- Opens the index, carries out the command and closes the index. Messages are read by a decoder. -/
def runSettings (decoder : Mime.Decoder) (disk : Disk) (clock : Clock) (settings : Settings) : Disk × Outcome :=
  match disk.openIndex settings.config decoder with
  | (disk, .error cause) => (disk, .failed cause)
  | (disk, .ok opened) =>
    let (index, result) := execute disk.files clock opened.index settings.command
    let (closed, _) := disk.closeIndex { opened with index }
    match result with
    | .ok output => (closed, .done output)
    | .error cause => (closed, .failed cause)

/-- Runs the program with a decoder. -/
def runWith (decoder : Mime.Decoder) (disk : Disk) (surroundings : Surroundings) (arguments : List String) :
    Disk × Outcome :=
  match readSettings disk.files surroundings.environment arguments with
  | .error fault => (disk, .usage fault (requestedText surroundings.environment fault))
  | .ok settings =>
    match prepareLog disk settings with
    | (disk, .error cause) => (disk, .failed cause)
    | (disk, .ok ()) => runSettings decoder disk surroundings.clock settings

/-- Runs the program. -/
def run (disk : Disk) (surroundings : Surroundings) (arguments : List String) : Disk × Outcome :=
  runWith Mime.readEvents disk surroundings arguments

end Letterbox.Program
