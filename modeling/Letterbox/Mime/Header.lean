import Letterbox.Mime.HeaderForm
import Letterbox.Mime.Transfer
import Letterbox.Text.LowerCase
import Letterbox.Text.Utf8

/-!
# Headers

A message starts with headers, one on a line, and an empty line ends them. A value goes on in the next
line if that line starts with a space or a tab. This module cuts the headers out of a message and knows
the names with a meaning of their own.
-/

namespace Letterbox.Mime

/-- A header as it stands in a message; one that the message's end cuts off is not closed. -/
structure Header where
  name : Bytes
  value : Bytes
  closed : Bool
deriving DecidableEq, Repr

/-- A run of bytes that is being read: first those that belong to it, then blanks that may. Both lists
hold the last byte first. -/
structure Run where
  kept : Bytes
  held : Bytes
deriving DecidableEq, Repr

namespace Run

/-- No bytes. -/
def empty : Run := ⟨[], []⟩

/-- Whether the run has begun. -/
def isEmpty (run : Run) : Bool := run.kept.isEmpty

/-- The run with one more byte; the blanks before it belong to the run. -/
def push (run : Run) (byte : UInt8) : Run := ⟨byte :: (run.held ++ run.kept), []⟩

/-- The run with a byte that belongs to it only if another follows. -/
def hold (run : Run) (byte : UInt8) : Run :=
  if run.isEmpty then run else ⟨run.kept, byte :: run.held⟩

/-- The bytes that belong to the run. -/
def bytes (run : Run) : Bytes := run.kept.reverse

/-- The characters of the run. -/
def text (run : Run) : List Char := Text.Utf8.decode run.bytes

end Run

/-- Cuts a value off the bytes behind a colon: the value, whether a line break ends it, and the rest. -/
def cutValue : Bytes → Bytes × Bool × Bytes
  | [] => ([], false, [])
  | byte :: rest =>
    let carriesOn := match rest with
      | next :: _ => next == 0x20 || next == 0x09
      | [] => false
    if byte == 0x0A && ! carriesOn then ([], true, rest)
    else
      let (value, closed, after) := cutValue rest
      (byte :: value, closed, after)

/-- What stands where a header's name is expected. -/
inductive NameCut where
  /-- A name, and the bytes behind its colon. -/
  | name (name : Bytes) (rest : Bytes)
  /-- An empty line, and the bytes behind it. -/
  | emptyLine (rest : Bytes)
  /-- The end of the message, within a name or before one. -/
  | ended (name : Bytes)
deriving Repr

/--
Looks for a name; a line without a colon is passed over, as are colons without a name. A line with such a
colon, of which some may have been read, is not empty.
-/
def cutName (run : Run) (colons : Bool) : Bytes → NameCut
  | [] => .ended run.bytes
  | byte :: rest =>
    if byte == 0x3A then if run.isEmpty then cutName run true rest else .name run.bytes rest
    else if byte == 0x0A then
      if run.isEmpty && ! colons then .emptyLine rest else cutName .empty false rest
    else if isAsciiBlank byte then cutName (run.hold byte) colons rest
    else cutName (run.push byte) colons rest

/-- The headers of a message, and its body if there is an empty line before it. -/
def cutHeaders (fuel : Nat) (message : Bytes) : List Header × Option Bytes :=
  match fuel with
  | 0 => ([], none)
  | fuel + 1 =>
    match cutName .empty false message with
    | .ended [] => ([], none)
    | .ended name => ([⟨name, [], false⟩], none)
    | .emptyLine rest => ([], some rest)
    | .name name rest =>
      let (value, closed, after) := cutValue rest
      let (headers, body) := cutHeaders fuel after
      (⟨name, value, closed⟩ :: headers, body)

/-- The headers of a message, and its body if there is an empty line before it. -/
def headersOf (message : Bytes) : List Header × Option Bytes :=
  cutHeaders (message.length + 1) message

namespace Header

/-- The name as it is written. -/
def ownName (header : Header) : String :=
  Text.Utf8.decodeString header.name

/-- The known name that a header bears, in any case and with any blanks in it, with its form. -/
def known? (header : Header) : Option (String × HeaderForm) :=
  let letters := header.name.filter fun byte => ! isAsciiBlank byte
  let lowered := Text.lowerAscii (Text.Utf8.decodeString letters)
  knownHeaders.find? fun known => Text.lowerAscii known.1 == lowered

/-- The name of a header: a known name in its usual case, any other as it is written. -/
def displayName (header : Header) : String :=
  (header.known?.map (·.1)).getD header.ownName

/-- How the value of a header is read; an unknown name says nothing about it. -/
def form (header : Header) : HeaderForm :=
  (header.known?.map (·.2)).getD .verbatim

/-- The value as it stands, on all its lines. -/
def ownText (header : Header) : List Char :=
  Text.Utf8.decode header.value

end Header

/-- The last header with a known name. -/
def lastHeader? (headers : List Header) (name : String) : Option Header :=
  headers.reverse.find? fun header => header.displayName == name

end Letterbox.Mime
