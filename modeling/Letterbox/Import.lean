import Letterbox.Archive
import Letterbox.Index
import Letterbox.Mime.Date
import Letterbox.Text.Quoted

/-!
# Imports

Messages come into a mailbox from files or from an archive. Each gets the next number; one that cannot
be read or indexed is reported and does not hold up the others.
-/

namespace Letterbox

/-- Why a message was not imported. -/
inductive ImportFault where
  | unreadableFile (path : String) (fault : FileFault)
  | unindexedFile (path : String) (cause : Failure)
  | emptyEntry (offset : Nat)
  | unindexedEntry (offset : Nat) (cause : Failure)
deriving DecidableEq, Repr

/-- The message of a fault. -/
def ImportFault.message : ImportFault → String
  | unreadableFile path fault =>
    "Failed to read EML file " ++ Text.quote path ++ ": " ++ fault.message
  | unindexedFile path cause =>
    "Failed to index EML file " ++ Text.quote path ++ ": " ++ cause.message
  | emptyEntry offset => "Empty mbox entry at offset " ++ toString offset
  | unindexedEntry offset cause =>
    "Failed to process message from mbox at offset " ++ toString offset ++ ": " ++ cause.message

/-- Where a message comes from. -/
inductive ImportSource where
  | file (path : String) (content : Except FileFault Bytes)
  | entry (entry : Archive.Entry)

namespace ImportSource

/-- The bytes of a message, or why there are none. An entry without bytes is no message. -/
def content : ImportSource → Except ImportFault Bytes
  | file path (.error fault) => .error (.unreadableFile path fault)
  | file _ (.ok bytes) => .ok bytes
  | entry found => if found.message.isEmpty then .error (.emptyEntry found.offset) else .ok found.message

/-- The fault of a message that the index did not take. -/
def blame (cause : Failure) : ImportSource → ImportFault
  | file path _ => .unindexedFile path cause
  | entry found => .unindexedEntry found.offset cause

end ImportSource

/-- What became of a message. -/
inductive ImportOutcome where
  | imported (uid : Uid)
  | failed (fault : ImportFault)
deriving DecidableEq, Repr

/-- What became of each message, in their order. -/
abbrev ImportReport := List ImportOutcome

namespace ImportReport

/-- The numbers of the imported messages. -/
def uids (report : ImportReport) : List Uid :=
  report.filterMap fun outcome =>
    match outcome with
    | .imported uid => some uid
    | .failed _ => none

end ImportReport

/-- The account that is given of an import: how many messages there were, and what became of them. -/
structure ImportAccount where
  total : Nat
  success : Nat
  failed : Nat
  uids : List Uid
  faults : List (Nat × ImportFault)
deriving DecidableEq, Repr

namespace ImportAccount

/-- The account before the first message. -/
def empty : ImportAccount := ⟨0, 0, 0, [], []⟩

/-- The account with one more message, at a place. -/
def record (account : ImportAccount) (place : Nat) : ImportOutcome → ImportAccount
  | .imported uid =>
    { account with
      total := account.total + 1
      success := account.success + 1
      uids := account.uids ++ [uid] }
  | .failed fault =>
    { account with
      total := account.total + 1
      failed := account.failed + 1
      faults := account.faults ++ [(place, fault)] }

/-- The account with further messages, from a place on. -/
def recordAll (account : ImportAccount) (place : Nat) : ImportReport → ImportAccount
  | [] => account
  | outcome :: rest => (account.record place outcome).recordAll (place + 1) rest

/-- The JSON form. -/
def toJson (account : ImportAccount) : Json :=
  Json.record
    [("total", Json.nat account.total),
      ("success", Json.nat account.success),
      ("failed", Json.nat account.failed),
      ("uids", .array (account.uids.map Json.word)),
      ("failed_details",
        .array (account.faults.map fun (place, fault) =>
          Json.record [("index", Json.nat place), ("error_message", Json.str fault.message)]))]

end ImportAccount

namespace ImportReport

/-- The account of a report. -/
def account (report : ImportReport) : ImportAccount :=
  ImportAccount.empty.recordAll 0 report

/-- The JSON form. -/
def toJson (report : ImportReport) : Json :=
  report.account.toJson

end ImportReport

/-- The number after one; the largest is its own. -/
def nextUid (uid : Uid) : Uid :=
  if uid = lastUid then lastUid else uid + 1

/-- What a clock shows, one reading after the other. -/
abbrev Clock := Nat → Instant

/-- The clock after a reading. -/
def Clock.later (clock : Clock) : Clock :=
  fun reading => clock (reading + 1)

/-- What the messages of an import share, and the clock for those that give no date. -/
structure ImportTarget where
  mailbox : Mailbox
  flags : Flags
  clock : Clock

namespace ImportTarget

/-- A message of an import. The clock is read only if the message gives no date. -/
def message (target : ImportTarget) (uid : Uid) (content : Bytes) : Message where
  mailbox := target.mailbox
  uid := uid
  date := (Mime.dateOf? content).getD (target.clock 0)
  modSeq := 0
  flags := target.flags
  content := content

/-- The target after a message: if it gave no date, the clock was read. -/
def after (target : ImportTarget) (content : Bytes) : ImportTarget :=
  { target with clock := if (Mime.dateOf? content).isSome then target.clock else target.clock.later }

/-- The target after some messages. -/
def afterAll (target : ImportTarget) (contents : List Bytes) : ImportTarget :=
  contents.foldl after target

@[simp]
theorem mailbox_after (target : ImportTarget) (content : Bytes) :
    (target.after content).mailbox = target.mailbox :=
  rfl

@[simp]
theorem flags_after (target : ImportTarget) (content : Bytes) : (target.after content).flags = target.flags :=
  rfl

end ImportTarget

namespace Index

/--
Imports messages under the numbers from one on. A message that the index does not take uses up its
number, and its reading of the clock; one that could not be read does not.
-/
def importFrom (index : Index) (target : ImportTarget) (uid : Uid) :
    List ImportSource → Index × ImportReport
  | [] => (index, [])
  | source :: rest =>
    match source.content with
    | .error fault =>
      let (last, report) := index.importFrom target uid rest
      (last, .failed fault :: report)
    | .ok content =>
      match index.add target.mailbox (target.message uid content) with
      | .error cause =>
        let (last, report) := index.importFrom (target.after content) (nextUid uid) rest
        (last, .failed (source.blame cause) :: report)
      | .ok next =>
        let (last, report) := next.importFrom (target.after content) (nextUid uid) rest
        (last, .imported uid :: report)

/-- The first number of an import: behind the highest one that searches see. -/
def firstFreeUid (index : Index) (mailbox : Mailbox) : Uid :=
  match index.highestUid? mailbox with
  | some uid => nextUid uid
  | none => 1

/-- Imports messages from files. -/
def importFiles (index : Index) (files : FileTree) (target : ImportTarget) (first : Option Uid)
    (paths : List String) : Index × ImportReport :=
  index.importFrom target (first.getD (index.firstFreeUid target.mailbox))
    (paths.map fun path => .file path (files.read path))

/-- Imports the messages of an archive. -/
def importArchive (index : Index) (files : FileTree) (target : ImportTarget) (path : String) :
    Except Failure (Index × ImportReport) :=
  match files.read path with
  | .ok archive =>
    .ok (index.importFrom target (index.firstFreeUid target.mailbox)
      ((Archive.entries archive).map .entry))
  | .error .isADirectory => .error (.archive path .cannotBeMapped)
  | .error fault => .error (.file fault)

end Index

end Letterbox
