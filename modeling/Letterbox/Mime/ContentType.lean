import Letterbox.Mime.Value
import Letterbox.Text.Order

/-!
# Content types

A content type is a type, mostly a subtype behind a slash, and parameters between semicolons. A long
parameter may come in numbered pieces, and one with a star holds percent escapes in a character set.
-/

namespace Letterbox.Mime

/-- A content type. -/
structure ContentType where
  main : String
  sub : Option String
  parameters : List (String × String)
deriving DecidableEq, Repr

/-- The value of the first parameter with a name. -/
def ContentType.parameter? (type : ContentType) (name : String) : Option String :=
  type.parameters.lookup name

/-- Where in a content type a byte stands. -/
inductive TypePlace where
  | main
  | sub
  | name
  | value
  | quote
  | comment
deriving DecidableEq, Repr

/-- A numbered piece of a parameter. -/
structure ParameterPiece where
  name : String
  number : Nat
  value : String
deriving DecidableEq, Repr

/-- A content type that is being read. -/
structure TypeState where
  place : TypePlace
  outer : List TypePlace
  run : Run
  atStart : Bool
  escaped : Bool
  main : Option String
  sub : Option String
  /-- The name of the parameter under way, and what it has of a value. -/
  name : Option String
  value : Option (List Char)
  /-- The parameter's name has a star. -/
  starred : Bool
  /-- The parameter's value has percent escapes. -/
  percent : Bool
  number : Nat
  charset : Option String
  parameters : List (String × String)
  pieces : List ParameterPiece

namespace TypeState

/-- The state before a value. -/
def start : TypeState where
  place := .main
  outer := []
  run := .empty
  atStart := true
  escaped := false
  main := none
  sub := none
  name := none
  value := none
  starred := false
  percent := false
  number := 0
  charset := none
  parameters := []
  pieces := []

/-- The state without a run. -/
def reset (state : TypeState) : TypeState :=
  { state with run := .empty, atStart := true }

/-- Takes the run as the type, the subtype or a parameter's name, in lower case. -/
def endName (state : TypeState) : TypeState :=
  if state.run.isEmpty then state
  else
    let text := some (Text.lowerAscii (String.ofList state.run.text))
    match state.place with
    | .main => { state.reset with main := text }
    | .sub => { state.reset with sub := text }
    | _ => { state.reset with name := text }

/-- Takes the run as the character set or the language of a value with percent escapes. -/
def endAttribute (state : TypeState) : TypeState :=
  if state.run.isEmpty then state
  else
    let text := String.ofList state.run.text
    if state.charset.isNone then { state.reset with charset := some text }
    else
      let name := state.name.getD "" ++ "-language"
      if (state.parameters.lookup name).isNone then
        { state.reset with parameters := state.parameters ++ [(name, text)] }
      else { state.reset with value := extend (extend state.value ['\'']) text.toList }

/-- Adds the run to the value; outside quotes a space follows. -/
def endPart (state : TypeState) (whole : Bool) : TypeState :=
  if state.run.isEmpty then state
  else
    let bytes :=
      if state.place = .quote ∧ whole then (state.run.held ++ state.run.kept).reverse else state.run.bytes
    let letters := Text.Utf8.decode bytes ++ if state.place = .quote then [] else [' ']
    { state.reset with value := extend state.value letters }

/--
The bytes of a text with percent escapes, if they are all well formed. An escape that the end of the text
cuts off stands for nothing.
-/
def unescape? : Bytes → Option Bytes
  | 0x25 :: high :: low :: rest => do
    let high ← hexDigit? high
    let low ← hexDigit? low
    (unescape? rest).map (UInt8.ofNat (high * 16 + low) :: ·)
  | [0x25, high] => (hexDigit? high).map fun _ => []
  | [0x25] => some []
  | byte :: rest => (unescape? rest).map (byte :: ·)
  | [] => some []

/-- The value of a parameter with percent escapes in a character set. -/
def unescaped (charset : Option String) (value : String) : String :=
  match unescape? (Text.Utf8.encode value) with
  | some bytes => String.ofList (Charset.readMail charset bytes)
  | none => value

/-- Ends a parameter. -/
def endValue (state : TypeState) : TypeState :=
  match state.name with
  | none => state
  | some name =>
    if state.run.isEmpty && state.value.isNone then state
    else
      let letters := state.value.getD [] ++ if state.run.isEmpty then [] else state.run.text
      let own := String.ofList letters
      let value := if state.percent then unescaped state.charset own else own
      let ended :=
        { state.reset with
          name := none, value := none, starred := false, percent := false, number := 0, charset := none }
      if state.number = 0 then { ended with parameters := state.parameters ++ [(name, value)] }
      else { ended with pieces := state.pieces ++ [⟨name, state.number, value⟩] }

/-- Takes the run as the number of a piece. -/
def endNumber (state : TypeState) : TypeState :=
  if state.run.isEmpty then state
  else
    let digits := state.run.text
    let number :=
      if digits.all Char.isDigit then
        digits.foldl (fun value letter => value * 10 + (letter.toNat - '0'.toNat)) 0
      else 0
    { state.reset with number := if number < 4294967296 then number else 0 }

/-- Adds a byte to the run. -/
def push (state : TypeState) (byte : UInt8) : TypeState :=
  { state with run := state.run.push byte, atStart := false, escaped := false }

/-- Ends what is under way at the end of a line or before a comment. -/
def endItem (state : TypeState) : TypeState :=
  match state.place with
  | .main | .sub | .name => state.endName
  | .value => state.endValue
  | _ => state

/-- The state after a line break that carries the value on. -/
def lineBreak (state : TypeState) : TypeState :=
  if state.place = .quote then { state with run := state.run.hold 0x20, atStart := true }
  else
    let ended := state.endItem
    { ended with place := if ended.place = .value then .name else ended.place, atStart := true }

/-- A semicolon. -/
def semicolon (state : TypeState) (byte : UInt8) : TypeState :=
  match state.place with
  | .main | .sub | .name => { state.endName with place := .name }
  | .value =>
    if state.escaped then { state with escaped := false } else { state.endValue with place := .name }
  | _ => state.push byte

/-- A star in a parameter's name. -/
def star (state : TypeState) : TypeState :=
  if ! state.starred then { state.endName with starred := ! state.run.isEmpty }
  else if ! state.percent then { state.endNumber with percent := true }
  else state.reset

/-- The equals sign behind a parameter's name. -/
def equals (state : TypeState) : TypeState :=
  if ! state.starred then
    if state.run.isEmpty then state else { state.endName with place := .value }
  else if state.run.isEmpty then { state with percent := true, place := .value }
  else { state.endNumber with place := .value }

/-- A quotation mark. -/
def quotationMark (state : TypeState) (byte : UInt8) : TypeState :=
  match state.place with
  | .value => { state with place := .quote, atStart := true }
  | .quote => if state.escaped then state.push byte else { state.endValue with place := .name }
  | _ => state

/-- A backslash. -/
def backslash (state : TypeState) (byte : UInt8) : TypeState :=
  match state.place with
  | .value | .quote =>
    if state.escaped then state.push byte else { state.endPart true with escaped := true }
  | .comment => { state with escaped := ! state.escaped }
  | _ => state

/-- An opening bracket of a comment. -/
def openComment (state : TypeState) : TypeState :=
  if state.escaped then { state with escaped := false }
  else
    let ended := state.endItem
    { ended with outer := ended.place :: ended.outer, place := .comment }

/-- A closing bracket of a comment. -/
def closeComment (state : TypeState) : TypeState :=
  if state.escaped then { state with escaped := false }
  else { state.reset with place := state.outer.headD .main, outer := state.outer.drop 1 }

/-- The state after one more byte. -/
def feed (state : TypeState) (byte : UInt8) : TypeState :=
  match Char.ofNat byte.toNat, state.place with
  | ' ', .quote | '\t', .quote => { state with run := state.run.push byte, atStart := true }
  | ' ', _ | '\t', _ => { state with run := state.run.hold byte, atStart := true }
  | '\n', _ => state.lineBreak
  | '/', .main => { state.endName with place := .sub }
  | ';', _ => state.semicolon byte
  | '*', .name => state.star
  | '=', .name => state.equals
  | '"', _ => state.quotationMark byte
  | '\\', _ => state.backslash byte
  | '\'', .value | '\'', .quote =>
    if state.percent && ! state.escaped then state.endAttribute else state.push byte
  | '(', .quote => state.push byte
  | '(', _ => state.openComment
  | ')', .comment => state.closeComment
  | '\r', .quote => state
  | '\r', _ => { state with run := state.run.hold byte }
  | _, _ => state.push byte

/-- Adds an encoded word to the value. -/
def word (state : TypeState) (letters : List Char) : TypeState :=
  let ended := state.endPart false
  { ended with value := extend ended.value letters }

/-- The reader of content types. -/
def reader : WordReader TypeState where
  feed := feed
  atWord state := state.atStart && (state.place = .value || state.place = .quote)
  word := word

/-- Adds a piece to its parameter, or starts the parameter with it. -/
def joinPiece (parameters : List (String × String)) (piece : ParameterPiece) : List (String × String) :=
  if (parameters.lookup piece.name).isNone then parameters ++ [(piece.name, piece.value)]
  else
    let (before, from') := parameters.span fun parameter => parameter.1 != piece.name
    match from' with
    | (name, value) :: after => before ++ (name, value ++ piece.value) :: after
    | [] => before

/-- The order of pieces: by name, then by number. -/
def pieceBefore (first second : ParameterPiece) : Bool :=
  if first.name = second.name then first.number ≤ second.number else Text.precedes first.name second.name

/-- The parameters with their pieces joined. -/
def joined (state : TypeState) : List (String × String) :=
  (state.pieces.mergeSort pieceBefore).foldl joinPiece state.parameters

end TypeState

/-- The content type of a header, if it names one. -/
def contentTypeOf? (header : Header) : Option ContentType :=
  if header.closed then
    let state := (TypeState.reader.run .start header.value).endItem
    state.main.map fun main => ⟨main, state.sub, state.joined⟩
  else none

end Letterbox.Mime
