import Letterbox.Charset
import Letterbox.Field
import Letterbox.Html.Layout
import Letterbox.Mime.Event

/-!
# Documents

A message is kept as two documents: one for its content, which never changes, and one for its flags,
which is replaced whenever they change. `Document.values` tells what a document holds in each field.
-/

namespace Letterbox

/-- The content of a message as it is searched. -/
structure ContentDocument where
  mailbox : Mailbox
  uid : Uid
  modSeq : UInt64
  size : UInt64
  date : Instant
  headers : List Mime.HeaderField
  /-- The texts of the body parts. -/
  bodies : List String
deriving DecidableEq

/-- The flags of a message. -/
structure FlagsDocument where
  mailbox : Mailbox
  uid : Uid
  flags : Flags
deriving DecidableEq

/-- The kinds of documents. -/
inductive DocumentKind where
  | message
  | flags
deriving DecidableEq, Repr

/-- The name of a kind. -/
def DocumentKind.name : DocumentKind → String
  | message => "message"
  | flags => "flags"

/-- The key of the document of a message's content. -/
def contentKey (mailbox : Mailbox) (uid : Uid) : String :=
  mailbox.name ++ "-" ++ toString uid.toNat

/-- The key of the document of a message's flags. -/
def flagsKey (mailbox : Mailbox) (uid : Uid) : String :=
  DocumentKind.flags.name ++ "-" ++ contentKey mailbox uid

/-- The width of the page on which marked-up text is laid out: wide enough to keep paragraphs on one
line. -/
def pageWidth : Nat := 10000

/-- What marked-up text shows; the markup itself if it cannot be laid out. -/
def shownText (markup : List Char) : List Char :=
  (Html.plainText? pageWidth markup).getD markup

/--
The text of a body part, if it is one: its bytes in their character set, by default UTF-8. Of marked-up
text only what it shows is taken.
-/
def Mime.BodyPart.text? (part : Mime.BodyPart) : Option String :=
  if part.mediaType = "text" ∨ part.mediaType = "message" then
    let charset := (part.charset.bind Charset.labelled?).getD .utf8
    let letters := charset.decode part.contents
    some (String.ofList (if part.isHtml then shownText letters else letters))
  else none

namespace Mime.Event

/-- The header that an event tells of. -/
def header? : Event → Option HeaderField
  | .header field => some field
  | .body _ => none

/-- The body text that an event tells of. -/
def bodyText? : Event → Option String
  | .header _ => none
  | .body part => part.text?

end Mime.Event

/-- The content of a message, given the events of its decoder. -/
def ContentDocument.ofEvents (message : Message) (events : List Mime.Event) : ContentDocument where
  mailbox := message.mailbox
  uid := message.uid
  modSeq := message.modSeq
  size := message.size
  date := message.date
  headers := events.filterMap Mime.Event.header?
  bodies := events.filterMap Mime.Event.bodyText?

/-- The content of a message, if a decoder understands it. -/
def ContentDocument.ofMessage (decoder : Mime.Decoder) (message : Message) :
    Except Failure ContentDocument :=
  match decoder message.content with
  | .ok events => .ok (ofEvents message events)
  | .error cause => .error (.undecodable message.uid message.mailbox cause)

/-- The flags of a message. -/
def FlagsDocument.ofMessage (message : Message) : FlagsDocument :=
  ⟨message.mailbox, message.uid, message.flags⟩

/-- A document of an index. -/
inductive Document where
  | content (document : ContentDocument)
  | flags (document : FlagsDocument)
deriving DecidableEq

/-- A value of a field. -/
inductive Value where
  | text (content : String)
  | word (value : UInt64)
  | integer (value : Int)
deriving DecidableEq, Repr

namespace Document

/-- The kind of a document. -/
def kind : Document → DocumentKind
  | content _ => .message
  | flags _ => .flags

/-- The mailbox of the message. -/
def mailbox : Document → Mailbox
  | content document => document.mailbox
  | flags document => document.mailbox

/-- The number of the message. -/
def uid : Document → Uid
  | content document => document.uid
  | flags document => document.uid

/-- The key of a document. -/
def key : Document → String
  | content document => contentKey document.mailbox document.uid
  | flags document => flagsKey document.mailbox document.uid

/-- A header line as people read it. -/
def shownLine (field : Mime.HeaderField) : String :=
  field.name ++ ": " ++ field.value

/-- A header line for tokens that carry the header's name. -/
def namedLine (field : Mime.HeaderField) : String :=
  field.name ++ ":" ++ field.value

/-- The addresses of a header, if it has a role. -/
def addressesOf (role : AddressRole) (field : Mime.HeaderField) : List String :=
  if AddressRole.ofHeader? field.name = some role then field.addresses.getD [] else []

/-- The values of the content of a message in a field. -/
def contentValues (document : ContentDocument) : Field → List Value
  | .id => [.text (contentKey document.mailbox document.uid)]
  | .kind => [.text DocumentKind.message.name]
  | .mailbox => [.text document.mailbox.name]
  | .uid => [.word document.uid]
  | .modSeq => [.word document.modSeq]
  | .size => [.word document.size]
  | .flags => []
  | .headers => document.headers.map (.text ∘ shownLine)
  | .header => document.headers.map (.text ∘ namedLine)
  | .body => document.bodies.map .text
  | .addresses role => (document.headers.flatMap (addressesOf role)).map .text
  | .internalDate resolution => [.integer (resolution.truncate document.date)]

/-- The values of the flags of a message in a field. -/
def flagsValues (document : FlagsDocument) : Field → List Value
  | .id => [.text (flagsKey document.mailbox document.uid)]
  | .kind => [.text DocumentKind.flags.name]
  | .mailbox => [.text document.mailbox.name]
  | .uid => [.word document.uid]
  | .flags => document.flags.tokens.map .text
  | _ => []

/-- The values of a document in a field, in their order. -/
def values : Document → Field → List Value
  | content document => contentValues document
  | flags document => flagsValues document

end Document

end Letterbox
