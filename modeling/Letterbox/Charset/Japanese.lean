import Letterbox.Charset.Machine
import Letterbox.Charset.Table.Jis0208
import Letterbox.Charset.Table.Jis0212

/-!
# Japanese character sets

Shift_JIS, EUC-JP and ISO-2022-JP.
-/

namespace Letterbox.Charset

/-- The character at a place of JIS X 0208. -/
def jis0208? (place : Nat) : Option Char :=
  inTable? jis0208Rows 188 place

/-- The half-width katakana of a byte. -/
def halfKatakana (byte : Nat) : Char :=
  Char.ofNat (0xFF61 - 0xA1 + byte)

/-- The character of two bytes of Shift_JIS; places from 8836 to 10715 are private. -/
def shiftJisPair? (lead byte : Nat) : Option Char :=
  if (0x40 ≤ byte && byte ≤ 0x7E) || (0x80 ≤ byte && byte ≤ 0xFC) then
    let place :=
      (lead - (if lead < 0xA0 then 0x81 else 0xC1)) * 188 + byte - (if byte < 0x7F then 0x40 else 0x41)
    if 8836 ≤ place ∧ place ≤ 10715 then some (Char.ofNat (0xE000 - 8836 + place))
    else jis0208? place
  else none

/-- Shift_JIS. -/
def shiftJisMachine : Machine LeadState where
  start := none
  feed
    | none, byte =>
      if byte ≤ 0x80 then ([Char.ofNat byte], none)
      else if 0xA1 ≤ byte ∧ byte ≤ 0xDF then ([halfKatakana byte], none)
      else if (0x81 ≤ byte ∧ byte ≤ 0x9F) ∨ (0xE0 ≤ byte ∧ byte ≤ 0xFC) then ([], some byte)
      else (malformed, none)
    | some lead, byte =>
      match shiftJisPair? lead byte with
      | some letter => ([letter], none)
      | none => refused none byte
  finish state := if state.isSome then malformed else []

/-- The bytes of EUC-JP under way. -/
inductive EucJpState where
  | idle
  | lead (byte : Nat)
  | supplement
  | supplementLead (byte : Nat)
deriving DecidableEq, Repr

/-- Whether a byte belongs to a pair of EUC-JP. -/
def isEucByte (byte : Nat) : Bool :=
  0xA1 ≤ byte && byte ≤ 0xFE

/-- EUC-JP. -/
def eucJpMachine : Machine EucJpState where
  start := .idle
  feed
    | .idle, byte =>
      if byte < 0x80 then ([Char.ofNat byte], .idle)
      else if byte = 0x8F then ([], .supplement)
      else if byte = 0x8E ∨ isEucByte byte then ([], .lead byte)
      else (malformed, .idle)
    | .lead lead, byte =>
      if lead = 0x8E then
        if 0xA1 ≤ byte ∧ byte ≤ 0xDF then ([halfKatakana byte], .idle) else refused .idle byte
      else
        match if isEucByte byte then jis0208? ((lead - 0xA1) * 94 + byte - 0xA1) else none with
        | some letter => ([letter], .idle)
        | none => refused .idle byte
    | .supplement, byte =>
      if isEucByte byte then ([], .supplementLead byte) else refused .idle byte
    | .supplementLead lead, byte =>
      match
        if isEucByte byte then inTable? jis0212Rows 94 ((lead - 0xA1) * 94 + byte - 0xA1) else none
      with
      | some letter => ([letter], .idle)
      | none => refused .idle byte
  finish state := if state = .idle then [] else malformed

/-- The character set that an escape sequence of ISO-2022-JP selects. -/
inductive IsoJpSet where
  | ascii
  | roman
  | katakana
  | kanji
deriving DecidableEq, Repr

/-- What ISO-2022-JP has read of a character or an escape sequence. -/
inductive IsoJpPending where
  | nothing
  | lead (byte : Nat)
  | escape
  | escapeByte (byte : Nat)
deriving DecidableEq, Repr

/-- Where ISO-2022-JP stands: the set, what is under way, and whether an escape has just ended. -/
structure IsoJpState where
  set : IsoJpSet
  pending : IsoJpPending
  escaped : Bool
deriving DecidableEq, Repr

/-- A character of ISO-2022-JP, or a malformed byte. -/
def isoJpLetter (state : IsoJpState) (letter : Option Char) : List Char × IsoJpState :=
  (letter.elim malformed fun letter => [letter], { state with pending := .nothing, escaped := false })

/-- What a byte of ISO-2022-JP gives outside an escape sequence. -/
def isoJpByte (state : IsoJpState) (byte : Nat) : List Char × IsoJpState :=
  let plain := if byte < 0x80 ∧ byte ≠ 0x0E ∧ byte ≠ 0x0F then some (Char.ofNat byte) else none
  match state.pending with
  | .lead lead =>
    if byte = 0x1B then (malformed, { state with pending := .escape })
    else
      isoJpLetter state
        (if 0x21 ≤ byte ∧ byte ≤ 0x7E then jis0208? ((lead - 0x21) * 94 + byte - 0x21) else none)
  | _ =>
    if byte = 0x1B then ([], { state with pending := .escape })
    else
      match state.set with
      | .ascii => isoJpLetter state plain
      | .roman =>
        isoJpLetter state (if byte = 0x5C then some '¥' else if byte = 0x7E then some '‾' else plain)
      | .katakana =>
        isoJpLetter state
          (if 0x21 ≤ byte ∧ byte ≤ 0x5F then some (Char.ofNat (0xFF61 - 0x21 + byte)) else none)
      | .kanji =>
        if 0x21 ≤ byte ∧ byte ≤ 0x7E then ([], ⟨.kanji, .lead byte, false⟩) else isoJpLetter state none

/-- The set that the two bytes of an escape sequence select. -/
def isoJpSelected? (first second : Nat) : Option IsoJpSet :=
  match first, second with
  | 0x28, 0x42 => some .ascii
  | 0x28, 0x4A => some .roman
  | 0x28, 0x49 => some .katakana
  | 0x24, 0x40 | 0x24, 0x42 => some .kanji
  | _, _ => none

/-- The state after what turned out to be no escape sequence. -/
def IsoJpState.unescaped (state : IsoJpState) : IsoJpState :=
  ⟨state.set, .nothing, false⟩

/-- What is left when the bytes of ISO-2022-JP end. -/
def isoJpRest (state : IsoJpState) : List Char :=
  match state.pending with
  | .nothing => []
  | .lead _ | .escape => malformed
  | .escapeByte first =>
    let (letters, next) := isoJpByte state.unescaped first
    malformed ++ letters ++ if next.pending = .nothing then [] else malformed

/-- ISO-2022-JP. An escape sequence right after another one is malformed. -/
def iso2022JpMachine : Machine IsoJpState where
  start := ⟨.ascii, .nothing, false⟩
  feed state byte :=
    match state.pending with
    | .nothing | .lead _ => isoJpByte state byte
    | .escape =>
      if byte = 0x24 ∨ byte = 0x28 then ([], { state with pending := .escapeByte byte })
      else
        let (letters, next) := isoJpByte state.unescaped byte
        (malformed ++ letters, next)
    | .escapeByte first =>
      match isoJpSelected? first byte with
      | some set => (if state.escaped then malformed else [], ⟨set, .nothing, true⟩)
      | none =>
        let (letters, next) := isoJpByte state.unescaped first
        let (more, last) := isoJpByte next byte
        (malformed ++ letters ++ more, last)
  finish := isoJpRest

end Letterbox.Charset
