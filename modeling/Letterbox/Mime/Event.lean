import Letterbox.Failure
import Letterbox.Mime.AddressList
import Letterbox.Mime.Part
import Letterbox.Text.Unfold

/-!
# Events

What an index hears of a message: its headers with their values on one line, and its textual body parts.
A decoder turns the bytes of a message into events; `readEvents` is the usual one.
-/

namespace Letterbox.Mime

/-- A header with its value on one line and, for lists of addresses, their texts. -/
structure HeaderField where
  name : String
  value : String
  addresses : Option (List String)
deriving DecidableEq, Repr

/-- A textual part of a body. -/
structure BodyPart where
  mediaType : String
  subType : String
  charset : Option String
  contents : Bytes
deriving DecidableEq, Repr

/-- Whether a part is marked-up text. -/
def BodyPart.isHtml (part : BodyPart) : Bool :=
  part.mediaType == "text" && part.subType == "html"

/-- What a decoder tells of a message. -/
inductive Event where
  | header (field : HeaderField)
  | body (part : BodyPart)
deriving DecidableEq, Repr

/-- A decoder gives the events of a message or fails as a whole. -/
abbrev Decoder := Bytes → Except Failure (List Event)

/-- The texts of a value that is a list of texts, with commas between. -/
def commaJoined (texts : List (List Char)) : List Char :=
  [',', ' '].intercalate texts

/-- The value of a header that is neither addresses nor to be shown as it stands. -/
def decodedText? (header : Header) : Option (List Char) :=
  let texts :=
    match header.form with
    | .phrase => phrasesOf false header.value
    | .phrases => phrasesOf true header.value
    | .identifiers => identifiersOf header.value
    | _ => []
  if header.closed ∧ ! texts.isEmpty then some (commaJoined texts) else none

/-- The event of a header. A value that cannot be read in its form is shown as it stands. -/
def Header.field (header : Header) : HeaderField :=
  match if header.form = .addresses then addressesOf? header else none with
  | some addresses =>
    let texts := Address.texts addresses
    ⟨header.displayName, String.intercalate ", " texts, some texts⟩
  | none =>
    ⟨header.displayName, String.ofList (Text.unfold ((decodedText? header).getD header.ownText)), none⟩

/-- The media type, the subtype and the character set that a content type gives; plain text without one. -/
def mediaOf (type : Option ContentType) : String × String × Option String :=
  match type with
  | some type =>
    (Text.lowerAscii type.main, Text.lowerAscii (type.sub.getD "plain"), type.parameter? "charset")
  | none => ("text", "plain", none)

/-- The events of a leaf: texts as UTF-8, and other bytes only where they are called text. -/
def Content.events (type : Option ContentType) : Content → List BodyPart
  | .text letters =>
    let (mediaType, subType, _) := mediaOf type
    [⟨mediaType, subType, some "utf-8", letters.flatMap Text.Utf8.encodeLetter⟩]
  | .html letters => [⟨"text", "html", some "utf-8", letters.flatMap Text.Utf8.encodeLetter⟩]
  | .binary bytes =>
    let (mediaType, subType, charset) := mediaOf type
    if mediaType = "text" then [⟨mediaType, subType, charset, bytes⟩] else []

mutual

/-- The events of a part, and of the messages in it down to a depth. -/
def Part.events (depth : Nat) : Part → List BodyPart
  | .leaf type content => content.events type
  | .container => []
  | .message parts =>
    match depth with
    | 0 => []
    | depth + 1 => eventsOfParts depth parts

/-- The events of parts in order. -/
def eventsOfParts (depth : Nat) : List Part → List BodyPart
  | [] => []
  | part :: rest => part.events depth ++ eventsOfParts depth rest

end

/-- How deep messages within messages are looked into. -/
def messageDepth : Nat := 10

/--
The decoder that a reader of messages gives: it tells of each header, as `field` shows it, and then of the bodies
of the parts.
-/
def decoderOf {α : Type} (field : α → HeaderField) (read : Bytes → Option (List α × List Part)) : Decoder :=
  fun message =>
    match read message with
    | none => .error .malformedContent
    | some (headers, parts) =>
      .ok (headers.map (fun header => .header (field header)) ++ (eventsOfParts messageDepth parts).map Event.body)

/-- The usual decoder. -/
def readEvents : Decoder :=
  decoderOf Header.field readMessage?

end Letterbox.Mime
