import Letterbox.Address
import Letterbox.Mime.Value

/-!
# Lists of addresses

How the value of a header is read as addresses: names, quoted names, addresses in angle brackets,
comments in brackets, and groups.
-/

namespace Letterbox.Mime

/-- Where in an address a byte stands. -/
inductive AddressPlace where
  | name
  | bracket
  | quote
  | comment
deriving DecidableEq, Repr

/-- The parts of the address under way. -/
structure AddressParts where
  name : Option (List Char)
  mail : Option (List Char)
  comment : Option (List Char)

/-- A name with a comment behind it. -/
def withComment (name comment : List Char) : List Char :=
  name ++ " (".toList ++ comment ++ [')']

/-- Whether a text holds blanks, so that it is no address. -/
def hasBlank (letters : List Char) : Bool :=
  letters.any fun letter => letter == ' ' || letter == '\t'

/--
The address of its parts. A comment names an address that has no name, and a single word is an address
even without an at sign.
-/
def AddressParts.address? (parts : AddressParts) : Option Address :=
  let address (name mail : Option (List Char)) : Option Address :=
    some ⟨name.map String.ofList, mail.map String.ofList⟩
  match parts.mail, parts.name, parts.comment with
  | some mail, some name, some comment => address (withComment name comment) mail
  | some mail, some name, none => address name mail
  | some mail, none, comment => address comment mail
  | none, some name, some comment =>
    if hasBlank name then address (withComment name comment) none else address comment name
  | none, some name, none => address none name
  | none, none, some comment => address comment none
  | none, none, none => none

/-- A list of addresses that is being read. -/
structure AddressState where
  run : Run
  /-- The run holds an at sign outside brackets. -/
  isMail : Bool
  atStart : Bool
  escaped : Bool
  parts : AddressParts
  /-- The last that was added to the parts is an encoded word. -/
  afterWord : Bool
  place : AddressPlace
  outer : List AddressPlace
  addresses : List Address
  /-- Addresses came since the last group. -/
  ungrouped : Bool
  /-- A group has a name. -/
  groupNamed : Bool
  /-- Groups came. -/
  grouped : Bool

namespace AddressState

/-- The state before a value. -/
def start : AddressState where
  run := .empty
  isMail := false
  atStart := true
  escaped := false
  parts := ⟨none, none, none⟩
  afterWord := false
  place := .name
  outer := []
  addresses := []
  ungrouped := false
  groupNamed := false
  grouped := false

/-- The parts with a run of bytes added where it stands. -/
def partsWith (state : AddressState) (letters : List Char) : AddressParts :=
  let parts := state.parts
  match state.place with
  | .bracket => { parts with mail := extend parts.mail letters }
  | .name =>
    if state.isMail then { parts with mail := extend parts.mail letters }
    else { parts with name := extendSpaced parts.name letters }
  | .quote => { parts with name := extend parts.name letters }
  | .comment => { parts with comment := extendSpaced parts.comment letters }

/-- Ends the run of bytes. -/
def endRun (state : AddressState) : AddressState :=
  if state.run.isEmpty then state
  else
    { state with
      parts := state.partsWith state.run.text
      afterWord := false
      run := .empty
      isMail := false
      atStart := true
      escaped := false }

/-- Ends the address. -/
def endAddress (state : AddressState) : AddressState :=
  match state.parts.address? with
  | some address =>
    { state with
      addresses := state.addresses ++ [address], parts := ⟨none, none, none⟩, ungrouped := true }
  | none => state

/-- Ends the group. -/
def endGroup (state : AddressState) : AddressState :=
  { state with
    grouped := state.grouped || state.ungrouped || state.groupNamed
    ungrouped := false
    groupNamed := false }

/-- Takes the parts so far as the name of a group. -/
def nameGroup (state : AddressState) : AddressState :=
  let parts := state.parts
  { state with
    groupNamed := state.groupNamed || parts.name.isSome || parts.mail.isSome
    parts := ⟨none, none, none⟩ }

/-- Goes on in a place, from which `leave` comes back. -/
def enter (state : AddressState) (place : AddressPlace) : AddressState :=
  { state with outer := state.place :: state.outer, place := place }

/-- Comes back to the place before. -/
def leave (state : AddressState) : AddressState :=
  { state with place := state.outer.headD .name, outer := state.outer.drop 1 }

/-- Adds a byte to the run. -/
def push (state : AddressState) (byte : UInt8) : AddressState :=
  { state with run := state.run.push byte, atStart := false, escaped := false }

/-- A blank belongs to a quoted name and only separates elsewhere. -/
def blank (state : AddressState) (byte : UInt8) : AddressState :=
  { state with
    run := if state.place = .quote then state.run.push byte else state.run.hold byte
    atStart := true
    escaped := false }

/-- A quotation mark that is not escaped. -/
def quotationMark (state : AddressState) (byte : UInt8) : AddressState :=
  match state.place with
  | .name => (state.enter .quote).endRun
  | .quote => state.endRun.leave
  | _ => state.push byte

/-- An opening bracket of a comment. -/
def openComment (state : AddressState) (byte : UInt8) : AddressState :=
  if state.place = .comment then { state.push byte with outer := .comment :: state.outer }
  else state.endRun.enter .comment

/-- A closing bracket of a comment. -/
def closeComment (state : AddressState) (byte : UInt8) : AddressState :=
  if state.outer.head? = some .comment then { state.push byte with outer := state.outer.drop 1 }
  else state.endRun.leave

/-- The state after one more byte. -/
def feed (state : AddressState) (byte : UInt8) : AddressState :=
  match Char.ofNat byte.toNat, state.place, state.escaped with
  | '\n', _, _ => { state.endRun with atStart := true }
  | '\\', .name, _ => state.push byte
  | '\\', _, false => { state.endRun with escaped := true }
  | ',', .name, _ => state.endRun.endAddress
  | '<', .name, _ => ({ state with isMail := false }.endRun).enter .bracket
  | '>', .bracket, _ => state.endRun.leave
  | '"', _, false => state.quotationMark byte
  | '@', .name, _ => { state.push byte with isMail := true }
  | ' ', _, _ | '\t', _, _ => state.blank byte
  | '\r', _, _ => { state with run := state.run.hold byte }
  | '(', .quote, _ => state.push byte
  | '(', _, false => state.openComment byte
  | ')', .comment, false => state.closeComment byte
  | ':', .name, false => (state.endGroup.endRun).nameGroup
  | ';', .name, _ => state.endRun.endAddress.endGroup
  | _, _, _ => state.push byte

/--
Adds an encoded word to a name or a comment. Outside quotes a space sets it off from what comes before it,
if that is no encoded word.
-/
def word (state : AddressState) (letters : List Char) : AddressState :=
  let ended := state.endRun
  let parts := ended.parts
  let add (text : Option (List Char)) : Option (List Char) :=
    if ended.afterWord ∨ ended.place = .quote then extend text letters else extendSpaced text letters
  { ended with
    parts :=
      if ended.place = .comment then { parts with comment := add parts.comment }
      else { parts with name := add parts.name }
    afterWord := true }

/-- The reader of addresses. -/
def reader : WordReader AddressState where
  feed := feed
  atWord state := state.atStart && ! state.escaped
  word := word

end AddressState

/-- The addresses of a value, if it holds any or names a group. -/
def addressesOf? (header : Header) : Option (List Address) :=
  let state := AddressState.reader.run .start header.value
  let last := (if header.closed then state.endRun else state).endAddress
  if last.groupNamed || last.grouped || ! last.addresses.isEmpty then some last.addresses else none

end Letterbox.Mime
