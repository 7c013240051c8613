import Letterbox.Mime.ContentType

/-!
# Parts

The body of a message is one part or, between boundary lines, many; a part may be a message of its own.
`readMessage?` gives the headers of a message and its parts in the order in which they stand. The parts
of a multipart body follow it in the same list; only the parts of an enclosed message are its own.
-/

namespace Letterbox.Mime

/-- What a part without parts of its own holds. -/
inductive Content where
  | text (letters : List Char)
  | html (letters : List Char)
  /-- Other bytes, whether they are to be shown in their place or attached. -/
  | binary (bytes : Bytes)
deriving DecidableEq, Repr

/-- A part of a message. -/
inductive Part where
  | leaf (type : Option ContentType) (content : Content)
  /-- A multipart body, whose parts follow. -/
  | container
  | message (parts : List Part)
deriving Repr

/-- What the content type of a part says about its form. -/
inductive PartKind where
  | multipart (digest : Bool)
  | text (isHtml : Bool)
  | message
  | other
deriving DecidableEq, Repr

/-- The form of a part; one without a content type is a message in a digest and text elsewhere. -/
def partKind (inDigest : Bool) : Option ContentType → PartKind
  | none => if inDigest then .message else .text false
  | some type =>
    match type.main with
    | "multipart" => .multipart (type.sub == some "digest")
    | "text" => .text (type.sub == some "html")
    | "message" => if type.sub == some "rfc822" || type.sub == some "global" then .message else .other
    | _ => .other

/-- The transfer encoding that the headers of a part name. -/
def transferEncoding (headers : List Header) : TransferEncoding :=
  match lastHeader? headers "Content-Transfer-Encoding" with
  | some header =>
    if header.closed then
      match (phrasesOf false header.value).map fun name => Text.lowerAscii (String.ofList name) with
      | ["base64"] => .base64
      | ["quoted-printable"] => .quotedPrintable
      | _ => .plain
    else .plain
  | none => .plain

/-- The content type that the headers of a part name. -/
def contentType? (headers : List Header) : Option ContentType :=
  (lastHeader? headers "Content-Type").bind contentTypeOf?

/-- How a boundary starts. -/
def boundaryMark (boundary : String) : Bytes :=
  0x2D :: 0x2D :: Text.Utf8.encode boundary

/-- Cuts bytes at the first mark, which need not be at the start of a line. -/
def cutAtMark (mark : Bytes) : Bytes → Option (Bytes × Bytes)
  | [] => none
  | byte :: rest =>
    if mark.isPrefixOf (byte :: rest) then some ([], (byte :: rest).drop mark.length)
    else (cutAtMark mark rest).map fun (before, after) => (byte :: before, after)

/-- What is left of a line that holds nothing but blanks. -/
def skipLine : Bytes → Bytes
  | 0x0D :: rest | 0x20 :: rest | 0x09 :: rest => skipLine rest
  | 0x0A :: rest => rest
  | rest => rest

/-- What follows a mark: another part, or the end of the multipart body. -/
inductive AfterMark where
  | part (rest : Bytes)
  | close (rest : Bytes)
deriving Repr

/-- Looks behind a mark. -/
def afterMark : Bytes → AfterMark
  | 0x0D :: 0x0A :: rest | 0x0A :: rest => .part rest
  | 0x2D :: 0x2D :: rest => .close rest
  | byte :: rest => .part (if isAsciiBlank byte then skipLine rest else byte :: rest)
  | [] => .part []

/-- Where reading goes on behind a part: behind the mark of the multipart body it is in, or nowhere. -/
inductive Onward where
  | mark (rest : Bytes)
  | nowhere
deriving Repr

/-- Where reading goes on behind a multipart body: behind the next mark of the one around it. -/
def seekMark (mark : Option Bytes) (bytes : Bytes) : Onward :=
  match mark.bind fun mark => cutAtMark mark bytes with
  | some (_, rest) => .mark rest
  | none => .nowhere

/-- The text of a part. -/
inductive PartExtent where
  /-- The part ends with the body. -/
  | toEnd
  /-- A mark ends the part. -/
  | toMark (text : Bytes)
  /-- The mark that should end the part is missing. -/
  | unclosed
deriving Repr

/-- The text of a part, and where reading goes on. -/
def cutPart (mark : Option Bytes) (body : Bytes) : PartExtent × Onward :=
  match mark with
  | none => (.toEnd, .nowhere)
  | some mark =>
    match cutAtMark mark body with
    | some (text, rest) => (.toMark text, .mark rest)
    | none => (.unclosed, .nowhere)

/-- The decoded bytes of a part, if they can be had, and the part as it stands. -/
def PartExtent.bytes (encoding : TransferEncoding) (body : Bytes) : PartExtent → Option Bytes × Bytes
  | toEnd => (encoding.decode? false body, body)
  | toMark text => (encoding.decode? true text, dropLineEnd text)
  | unclosed => (none, body)

/-- The characters of a text part. -/
def partText (type : Option ContentType) (bytes : Bytes) : List Char :=
  Charset.readMail (type.bind (·.parameter? "charset")) bytes

/--
A part without parts of its own. What cannot be decoded, or is not closed by a boundary, is text as it
stands. An encoded message is read by `nested`.
-/
def readLeaf (nested : Bytes → Option (List Part)) (mark : Option Bytes) (kind : PartKind)
    (type : Option ContentType) (encoding : TransferEncoding) (body : Bytes) : Part × Onward :=
  let (extent, onward) := cutPart mark body
  let part :=
    match extent.bytes encoding body with
    | (none, whole) => .leaf type (.text (partText type whole))
    | (some bytes, _) =>
      match kind with
      | .text true => .leaf type (.html (partText type bytes))
      | .text false => .leaf type (.text (partText type bytes))
      | .message =>
        match nested bytes with
        | some parts => .message parts
        | none => .leaf type (.binary bytes)
      | _ => .leaf type (.binary bytes)
  (part, onward)

mutual

/-- Reads a body within a multipart body with a mark, or within none. -/
def readBody (nested : Bytes → Option (List Part)) (fuel : Nat) (mark : Option Bytes) (inDigest : Bool)
    (headers : List Header) (body : Bytes) : List Part × Onward :=
  match fuel with
  | 0 => ([], .nowhere)
  | fuel + 1 =>
    let type := contentType? headers
    let encoding := transferEncoding headers
    let leaf (kind : PartKind) : List Part × Onward :=
      let (part, onward) := readLeaf nested mark kind type encoding body
      ([part], onward)
    match partKind inDigest type, encoding with
    | .multipart digest, _ =>
      match type.bind (·.parameter? "boundary") with
      | none => leaf .other
      | some boundary =>
        let own := boundaryMark boundary
        match seekMark (some own) body with
        | .mark rest =>
          let (parts, onward) := readParts nested fuel own mark digest (skipLine rest)
          (.container :: parts, onward)
        | .nowhere => leaf (.text false)
    | .message, .plain =>
      match headersOf body with
      | (headers, some body) =>
        let (parts, onward) := readBody nested fuel mark false headers body
        ([.message parts], onward)
      | (_, none) => leaf (.text false)
    | kind, _ => leaf kind

/-- Reads the parts of a multipart body up to its end. -/
def readParts (nested : Bytes → Option (List Part)) (fuel : Nat) (own : Bytes) (outer : Option Bytes)
    (digest : Bool) (bytes : Bytes) : List Part × Onward :=
  match fuel with
  | 0 => ([], .nowhere)
  | fuel + 1 =>
    match headersOf bytes with
    | (_, none) => ([], .nowhere)
    | (headers, some body) =>
      match readBody nested fuel (some own) digest headers body with
      | (parts, .nowhere) => (parts, .nowhere)
      | (parts, .mark rest) =>
        match afterMark rest with
        | .close rest => (parts, seekMark outer rest)
        | .part rest =>
          let (others, onward) := readParts nested fuel own outer digest rest
          (parts ++ others, onward)

end

/--
The headers and the parts of a message, in which encoded messages may lie in one another `depth` times.
Headers without a body have one empty text; without headers and a body there is no message.
-/
def readNested? (depth : Nat) (message : Bytes) : Option (List Header × List Part) :=
  let nested (bytes : Bytes) : Option (List Part) :=
    match depth with
    | 0 => none
    | depth + 1 => (readNested? depth bytes).map (·.2)
  match headersOf message with
  | ([], none) => none
  | (headers, none) => some (headers, [.leaf (contentType? headers) (.text [])])
  | (headers, some body) =>
    some (headers, (readBody nested (2 * message.length + 2) none false headers body).1)

/-- How many encoded messages may lie in one another. -/
def encodedDepth : Nat := 3

/-- The headers and the parts of a message. -/
def readMessage? (message : Bytes) : Option (List Header × List Part) :=
  readNested? encodedDepth message

end Letterbox.Mime
