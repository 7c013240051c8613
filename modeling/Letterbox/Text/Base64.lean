/-!
# Base64

Bytes as letters of an alphabet of 64, four letters for three bytes.
-/

namespace Letterbox.Text.Base64

/-- The alphabet, by value. -/
def alphabet : List Char :=
  "ABCDEFGHIJKLMNOPQRSTUVWXYZabcdefghijklmnopqrstuvwxyz0123456789+/".toList

/-- The value of a letter of the alphabet. -/
def digit? (byte : UInt8) : Option Nat :=
  let code := byte.toNat
  if 0x41 ≤ code ∧ code ≤ 0x5A then some (code - 0x41)
  else if 0x61 ≤ code ∧ code ≤ 0x7A then some (code - 0x61 + 26)
  else if 0x30 ≤ code ∧ code ≤ 0x39 then some (code - 0x30 + 52)
  else if code = 0x2B then some 62
  else if code = 0x2F then some 63
  else none

/-- The bytes of up to four digits; a single digit gives the upper bits of one byte. -/
def groupBytes : List Nat → List UInt8
  | [one] => [UInt8.ofNat (one * 4)]
  | [one, two] => [UInt8.ofNat (one * 4 + two / 16)]
  | [one, two, three] => [UInt8.ofNat (one * 4 + two / 16), UInt8.ofNat (two % 16 * 16 + three / 4)]
  | [one, two, three, four] =>
    [UInt8.ofNat (one * 4 + two / 16), UInt8.ofNat (two % 16 * 16 + three / 4),
      UInt8.ofNat (three % 4 * 64 + four)]
  | _ => []

/-- The bytes that may stand anywhere among the letters. -/
def isSpace (byte : UInt8) : Bool :=
  byte == 0x20 || byte == 0x09 || byte == 0x0A || byte == 0x0D

/--
Decodes letters that follow some digits of a group. An equals sign ends a group; a group that nothing
ends is left out.
-/
def decodeAfter? (digits : List Nat) : List UInt8 → Option (List UInt8)
  | [] => some []
  | byte :: rest =>
    match digit? byte with
    | some digit =>
      if digits.length = 3 then
        (decodeAfter? [] rest).map (groupBytes (digits ++ [digit]) ++ ·)
      else decodeAfter? (digits ++ [digit]) rest
    | none =>
      if byte == 0x3D then (decodeAfter? [] rest).map (groupBytes digits ++ ·)
      else if isSpace byte then decodeAfter? digits rest
      else none

/-- The bytes that letters stand for, if there are no other letters. -/
def decode? (letters : List UInt8) : Option (List UInt8) :=
  decodeAfter? [] letters

/-- A letter of the alphabet. -/
def letter (value : Nat) : Char :=
  (alphabet[value]?).getD '='

/-- The letters of bytes, with equals signs for a full last group. -/
def encode : List UInt8 → List Char
  | [] => []
  | [one] => [letter (one.toNat / 4), letter (one.toNat % 4 * 16), '=', '=']
  | [one, two] =>
    [letter (one.toNat / 4), letter (one.toNat % 4 * 16 + two.toNat / 16),
      letter (two.toNat % 16 * 4), '=']
  | one :: two :: three :: rest =>
    letter (one.toNat / 4) :: letter (one.toNat % 4 * 16 + two.toNat / 16)
      :: letter (two.toNat % 16 * 4 + three.toNat / 64) :: letter (three.toNat % 64) :: encode rest

end Letterbox.Text.Base64
