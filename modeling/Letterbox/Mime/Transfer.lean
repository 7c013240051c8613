import Letterbox.Mailbox
import Letterbox.Text.Base64

/-!
# Transfer encodings

How bytes travel as printable lines: quoted-printable, and base64 on lines.
-/

namespace Letterbox.Mime

/-- The ways in which a body can be encoded for transfer. -/
inductive TransferEncoding where
  | plain
  | base64
  | quotedPrintable
deriving DecidableEq, Repr

/-- The value of a hexadecimal digit in either case. -/
def hexDigit? (byte : UInt8) : Option Nat :=
  let code := byte.toNat
  if 0x30 ≤ code ∧ code ≤ 0x39 then some (code - 0x30)
  else if 0x41 ≤ code ∧ code ≤ 0x46 then some (code - 0x41 + 10)
  else if 0x61 ≤ code ∧ code ≤ 0x66 then some (code - 0x61 + 10)
  else none

/-- The blanks of ASCII. -/
def isAsciiBlank (byte : UInt8) : Bool :=
  byte == 0x20 || byte == 0x09 || byte == 0x0A || byte == 0x0C || byte == 0x0D

/-- What has been read of an escape. -/
inductive EscapeState where
  | plain
  | equals
  | digit (high : Nat)
deriving DecidableEq, Repr

/-- Where quoted-printable stands: the bytes so far, last first, and how many blanks they end with. -/
structure QuotedState where
  bytes : Bytes
  blanks : Nat
  escape : EscapeState
  /-- The last byte that was read. -/
  last : UInt8
  /-- The line break of the text: once a carriage return stood in one, each has it. -/
  lineEnd : Bytes
deriving Repr

namespace QuotedState

/-- The state before the first byte. -/
def start : QuotedState := ⟨[], 0, .plain, 0, [0x0A]⟩

/-- A line ends: an equals sign joins it to the next, else its last blanks are dropped. -/
def lineBreak (state : QuotedState) : QuotedState :=
  let lineEnd := if state.last == 0x0D then [0x0A, 0x0D] else state.lineEnd
  if state.escape = .equals then { state with blanks := 0, escape := .plain, lineEnd }
  else { state with bytes := lineEnd ++ state.bytes.drop state.blanks, blanks := 0, lineEnd }

/-- The state after bytes that stand for themselves. -/
def take (state : QuotedState) (bytes : Bytes) : QuotedState :=
  { state with bytes := bytes.reverse ++ state.bytes, blanks := 0, escape := .plain }

/-- The state after a byte that has no meaning of its own; a broken escape stands for itself. -/
def takePlain (state : QuotedState) (byte : UInt8) : QuotedState :=
  match state.escape, hexDigit? byte with
  | .plain, _ =>
    { state with
      bytes := byte :: state.bytes
      blanks := if isAsciiBlank byte then state.blanks + 1 else 0 }
  | .equals, some high => { state with escape := .digit high }
  | .equals, none => if isAsciiBlank byte then state else state.take [0x3D, byte]
  | .digit high, some low => state.take [UInt8.ofNat (high * 16 + low)]
  | .digit _, none => state.take [0x3D, state.last, byte]

/-- The state after one more byte; an equals sign within an escape makes the whole text unreadable. -/
def feed? (state : QuotedState) (byte : UInt8) : Option QuotedState :=
  let moved (next : QuotedState) : Option QuotedState := some { next with last := byte }
  if byte == 0x3D then
    if state.escape = .plain then moved { state with escape := .equals } else none
  else if byte == 0x0A then moved state.lineBreak
  else if byte == 0x0D then moved state
  else moved (state.takePlain byte)

/--
The bytes when a mark follows, of which the first dash was read as text. If the mark is at the start of a
line, the line break before it is given back with the dash, whether or not it gave bytes.
-/
def beforeMark (state : QuotedState) (atLineStart : Bool) : Bytes :=
  let surplus := 1 + if atLineStart then state.lineEnd.length else 0
  if state.bytes.length < surplus then state.bytes else state.bytes.drop surplus

end QuotedState

/-- The bytes of a quoted-printable text, which the text or a mark ends. -/
def quotedPrintable? (marked : Bool) (text : Bytes) : Option Bytes := do
  let state ← text.foldlM QuotedState.feed? QuotedState.start
  if marked then
    let dashed ← state.feed? 0x2D
    some (dashed.beforeMark (state.last == 0x0A)).reverse
  else some state.bytes.reverse

/-- Bytes without the line break at their end. -/
def dropLineEnd (bytes : Bytes) : Bytes :=
  match bytes.reverse with
  | 0x0A :: 0x0D :: rest => rest.reverse
  | 0x0A :: rest => rest.reverse
  | _ => bytes

/-- The bytes of an encoded text, if it can be decoded. A mark takes the line break before it away. -/
def TransferEncoding.decode? (encoding : TransferEncoding) (marked : Bool) (text : Bytes) :
    Option Bytes :=
  match encoding with
  | plain => some (if marked then dropLineEnd text else text)
  | base64 => Text.Base64.decode? text
  | quotedPrintable => quotedPrintable? marked text

end Letterbox.Mime
