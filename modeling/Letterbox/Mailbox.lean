import Letterbox.Flag
import Letterbox.Instant
import Letterbox.UidRange

/-!
# Mailboxes and messages

A mailbox is known by its name in lower case. A message belongs to a mailbox, in which it has a number.
-/

namespace Letterbox

/-- The name of a mailbox, in lower case. -/
structure Mailbox where
  name : String
deriving DecidableEq, Repr

/-- The mailbox that a text names in any case. -/
def Mailbox.named (text : String) : Mailbox :=
  ⟨Text.lowerString text⟩

/-- The JSON form: the name. -/
def Mailbox.toJson (mailbox : Mailbox) : Json :=
  Json.str mailbox.name

/-- The mailbox with a JSON form: the one that the text names. -/
def Mailbox.ofJson? (value : Json) : Option Mailbox :=
  value.text?.map named

/-- The bytes of a message or a file. -/
abbrev Bytes := List UInt8

/-- A message as a mail store holds it. -/
structure Message where
  mailbox : Mailbox
  uid : Uid
  date : Instant
  modSeq : UInt64
  flags : Flags
  content : Bytes

/-- The size of a message: the number of its bytes. -/
def Message.size (message : Message) : UInt64 :=
  UInt64.ofNat message.content.length

end Letterbox
