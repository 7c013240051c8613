import Letterbox.Query

/-!
# Snapshots

The entries of an index at one moment, and what queries find among them.
-/

namespace Letterbox

/-- The entries of an index at one moment. -/
abbrev Snapshot := List Entry

/-- How many messages there are, counted by the documents of either kind. -/
structure Statistics where
  messages : Nat
  flagsDocuments : Nat
deriving DecidableEq, Repr

namespace Snapshot

/-- The entries that answer a query. -/
def select (snapshot : Snapshot) (query : Query) : Snapshot :=
  snapshot.filter fun entry => query.selects entry

/-- The message numbers of all entries that answer a query, in ascending order. -/
def uids (snapshot : Snapshot) (query : Query) : List Uid :=
  ((snapshot.select query).map Entry.uid).mergeSort fun one other => decide (one ≤ other)

/-- The lowest message numbers of entries that answer a query. At least one is given if there is any. -/
def firstUids (snapshot : Snapshot) (query : Query) (limit : Nat) : List Uid :=
  (snapshot.uids query).take (max limit 1)

/-- The highest message number in a mailbox. -/
def highestUid? (snapshot : Snapshot) (mailbox : Mailbox) : Option Uid :=
  (snapshot.uids (.both (.inMailbox mailbox) .allMessages)).getLast?

/-- The number of entries of a kind. -/
def countOf (snapshot : Snapshot) (kind : DocumentKind) : Nat :=
  (snapshot.select (.ofKind kind)).length

/-- The statistics. -/
def statistics (snapshot : Snapshot) : Statistics :=
  ⟨snapshot.countOf .message, snapshot.countOf .flags⟩

end Snapshot

/-- The JSON form of statistics. -/
def Statistics.toJson (statistics : Statistics) : Json :=
  Json.record
    [("messages", Json.nat statistics.messages), ("flags_documents", Json.nat statistics.flagsDocuments)]

end Letterbox
