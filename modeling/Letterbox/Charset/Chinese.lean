import Letterbox.Charset.Machine
import Letterbox.Charset.Table.Big5
import Letterbox.Charset.Table.Gb18030
import Letterbox.Charset.Table.Gb18030Runs
import Letterbox.Charset.Table.KoreanHangul

/-!
# Chinese and Korean character sets

Big5 and the Unified Hangul Code are pairs of bytes; GB 18030 also has characters of four bytes.
-/

namespace Letterbox.Charset

/-- The letters of a pair of Big5; four pairs stand for a vowel and a combining mark. -/
def big5Pair (lead byte : Nat) : List Char :=
  if (0x40 ≤ byte ∧ byte ≤ 0x7E) ∨ (0xA1 ≤ byte ∧ byte ≤ 0xFE) then
    let place := (lead - 0x81) * 157 + (byte - if byte < 0x7F then 0x40 else 0x62)
    match place with
    | 1133 => ['Ê', '\u0304']
    | 1135 => ['Ê', '\u030c']
    | 1164 => ['ê', '\u0304']
    | 1166 => ['ê', '\u030c']
    | _ => (inTable? big5Rows 157 place).toList
  else []

/-- Big5 with the Hong Kong supplement. -/
def big5Machine : Machine LeadState := pairs big5Pair

/-- The letter of a pair of the Unified Hangul Code. -/
def hangulPair (lead byte : Nat) : List Char :=
  if 0x41 ≤ byte ∧ byte ≤ 0xFE then
    (inTable? koreanRows 190 ((lead - 0x81) * 190 + (byte - 0x41))).toList
  else []

/-- The Unified Hangul Code. -/
def koreanHangulMachine : Machine LeadState := pairs hangulPair

/-- The first bytes of a character of GB 18030. -/
inductive Gb18030State where
  | idle
  | first (one : Nat)
  | second (one two : Nat)
  | third (one two three : Nat)
deriving DecidableEq, Repr

/-- Whether a byte is one of the digits in a character of four bytes. -/
def isGbDigit (byte : Nat) : Bool :=
  0x30 ≤ byte && byte ≤ 0x39

/-- The letter of a pair of GB 18030. -/
def gb18030Pair? (lead byte : Nat) : Option Char :=
  if (0x40 ≤ byte ∧ byte ≤ 0x7E) ∨ (0x80 ≤ byte ∧ byte ≤ 0xFE) then
    inTable? gb18030Rows 190 ((lead - 0x81) * 190 + (byte - if byte < 0x7F then 0x40 else 0x41))
  else none

/-- The letter of four bytes of GB 18030. -/
def gb18030Quad? (one two three four : Nat) : Option Char :=
  let place := ((one - 0x81) * 10 + (two - 0x30)) * 1260 + (three - 0x81) * 10 + (four - 0x30)
  if place = 7457 then some (Char.ofNat 0xE7C7)
  else if place ≤ 39419 then
    (gb18030Runs.reverse.find? fun run => run.1 ≤ place).map fun run =>
      Char.ofNat (run.2 + (place - run.1))
  else if 189000 ≤ place ∧ place ≤ 1237575 then some (Char.ofNat (0x10000 + (place - 189000)))
  else none

/-- What a byte of GB 18030 gives after no byte or one. -/
def gb18030Byte (lead : Option Nat) (byte : Nat) : List Char × Gb18030State :=
  match lead with
  | none =>
    if byte < 0x80 then ([Char.ofNat byte], .idle)
    else if byte = 0x80 then (['€'], .idle)
    else if byte = 0xFF then (malformed, .idle)
    else ([], .first byte)
  | some lead =>
    if isGbDigit byte then ([], .second lead byte)
    else
      match gb18030Pair? lead byte with
      | some letter => ([letter], .idle)
      | none => refused .idle byte

/-- GB 18030. The digits of a broken character of four bytes are read again by themselves. -/
def gb18030Machine : Machine Gb18030State where
  start := .idle
  feed state byte :=
    match state with
    | .idle => gb18030Byte none byte
    | .first one => gb18030Byte (some one) byte
    | .second one two =>
      if 0x81 ≤ byte ∧ byte ≤ 0xFE then ([], .third one two byte)
      else
        let (letters, next) := gb18030Byte none byte
        (malformed ++ [Char.ofNat two] ++ letters, next)
    | .third one two three =>
      if isGbDigit byte then
        ((gb18030Quad? one two three byte).elim malformed fun letter => [letter], .idle)
      else
        let (letters, next) := gb18030Byte (some three) byte
        (malformed ++ [Char.ofNat two] ++ letters, next)
  finish state := if state = .idle then [] else malformed

end Letterbox.Charset
