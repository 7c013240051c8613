import Letterbox.Config
import Letterbox.Criterion.Query

/-!
# Indexes

An index holds the entries that searches see and those that the writes so far have made of them. Without
a commit interval each write is visible at once; with one it waits for a commit. A failed call gives no
new index, so it changes nothing.
-/

namespace Letterbox

/-- The two documents of a message. -/
structure MessageDocuments where
  content : ContentDocument
  flags : FlagsDocument

/-- The documents of a message, if a decoder understands it. -/
def MessageDocuments.ofMessage (decoder : Mime.Decoder) (message : Message) :
    Except Failure MessageDocuments :=
  match ContentDocument.ofMessage decoder message with
  | .ok content => .ok ⟨content, .ofMessage message⟩
  | .error failure => .error failure

/-- An index of messages. -/
structure Index where
  config : Config
  decoder : Mime.Decoder
  /-- What searches see. -/
  committed : Snapshot
  /-- What the writes so far have made of it. -/
  written : Snapshot
  /-- A write was not committed yet. -/
  isDirty : Bool
  /-- The index takes writes. -/
  isOpen : Bool

namespace Index

/-- An open index on given entries. -/
def ofSnapshot (config : Config) (decoder : Mime.Decoder) (snapshot : Snapshot) : Index :=
  ⟨config, decoder, snapshot, snapshot, false, true⟩

/-- The analysis of an index. -/
def analysis (index : Index) : Analysis :=
  index.config.analysis

/-- Makes all writes visible. -/
def commit (index : Index) : Index :=
  { index with committed := index.written, isDirty := false }

/-- Makes writes visible if there are any. -/
def commitPending (index : Index) : Index :=
  if index.isDirty then index.commit else index

/-- The index after a write: visible at once, or pending. -/
def afterWrite (index : Index) (written : Snapshot) : Index :=
  if index.config.commitsAtOnce then { index with written }.commit
  else { index with written, isDirty := true }

/-- Writes need an open index. -/
def requireOpen (index : Index) (operation : String) : Except Failure Unit :=
  if index.isOpen then .ok () else .error (.closed operation)

/-- Puts a document in the place of those of its kind with its key. -/
def replace (analysis : Analysis) (snapshot : Snapshot) (document : Document) : Snapshot :=
  (snapshot.filter fun entry => ! (Query.withKey document.key document.kind).selects entry)
    ++ [Entry.ofDocument analysis document]

/-- Puts the documents of a message in the place of those with their keys. -/
def put (index : Index) (documents : MessageDocuments) : Except Failure Index :=
  match index.requireOpen "add" with
  | .error failure => .error failure
  | .ok () =>
    let withContent := replace index.analysis index.written (.content documents.content)
    .ok (index.afterWrite (replace index.analysis withContent (.flags documents.flags)))

/-- Adds a message to a mailbox, which must be its own; a message with its number is replaced. -/
def add (index : Index) (mailbox : Mailbox) (message : Message) : Except Failure Index :=
  if message.mailbox ≠ mailbox then .error (.foreignMailbox message.uid message.mailbox mailbox)
  else
    match MessageDocuments.ofMessage index.decoder message with
    | .error failure => .error failure
    | .ok documents => index.put documents

/-- The documents of a mailbox with message numbers in a range. -/
def rangeQuery (mailbox : Mailbox) (range : UidRange) : Query :=
  .both (.inMailbox mailbox) (.inRange range)

/-- The flags of the messages of a mailbox with numbers in a range. -/
def flagsQuery (mailbox : Mailbox) (range : UidRange) : Query :=
  .both (.both (.inMailbox mailbox) (.ofKind .flags)) (.inRange range)

/--
Sets the flags of the messages of a mailbox with numbers in a range, and counts them. Pending writes are
committed first, so that their messages are found.
-/
def update (index : Index) (mailbox : Mailbox) (range : UidRange) (flags : Flags) :
    Except Failure (Index × Nat) :=
  match index.requireOpen "update" with
  | .error failure => .error failure
  | .ok () =>
    let index := index.commitPending
    let uids := index.committed.uids (flagsQuery mailbox range)
    let written := uids.foldl
      (fun snapshot uid => replace index.analysis snapshot (.flags ⟨mailbox, uid, flags⟩)) index.written
    .ok (index.afterWrite written, uids.length)

/-- Removes the messages of a mailbox with numbers in a range. -/
def delete (index : Index) (mailbox : Mailbox) (range : UidRange) : Except Failure Index :=
  match index.requireOpen "delete" with
  | .error failure => .error failure
  | .ok () =>
    .ok (index.afterWrite
      (index.written.filter fun entry => ! (rangeQuery mailbox range).selects entry))

/-- Makes all writes so far visible. -/
def flush (index : Index) : Except Failure Index :=
  match index.requireOpen "flush" with
  | .error failure => .error failure
  | .ok () => .ok index.commitPending

/-- Asks for a commit: an open index with a commit interval makes all writes so far visible. -/
def requestCommit (index : Index) : Index :=
  if index.isOpen ∧ ! index.config.commitsAtOnce then index.commitPending else index

/-- Commits and takes no more writes. Searches go on. -/
def close (index : Index) : Index :=
  if index.isOpen then { index.commitPending with isOpen := false } else index

/-- The lowest numbers of the messages of a mailbox that meet a criterion, as many as are allowed. -/
def search (index : Index) (mailbox : Mailbox) (criterion : Criterion) : Except Failure (List Uid) :=
  match criterion.validate with
  | .error failure => .error failure
  | .ok () =>
    match criterion.translate index.committed mailbox index.analysis with
    | .error failure => .error failure
    | .ok query => .ok (index.committed.firstUids query index.config.maxResults)

/-- The highest number of a message of a mailbox. -/
def highestUid? (index : Index) (mailbox : Mailbox) : Option Uid :=
  index.committed.highestUid? mailbox

/-- The statistics of what searches see. -/
def statistics (index : Index) : Statistics :=
  index.committed.statistics

end Index

end Letterbox
