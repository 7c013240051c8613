import Letterbox.Text.Utf8

/-!
# Byte machines

A decoder that reads one byte at a time: from a state and a byte it gives characters and the next
state, and characters for the state in which the bytes end.
-/

namespace Letterbox.Charset

/-- A decoder with states in `σ`. -/
structure Machine (σ : Type) where
  start : σ
  feed : σ → Nat → List Char × σ
  finish : σ → List Char

/-- The characters of bytes read from a state on. -/
def Machine.runFrom {σ : Type} (machine : Machine σ) : σ → List UInt8 → List Char
  | state, [] => machine.finish state
  | state, byte :: rest =>
    let (letters, next) := machine.feed state byte.toNat
    letters ++ machine.runFrom next rest

/-- The characters of bytes. -/
def Machine.run {σ : Type} (machine : Machine σ) (bytes : List UInt8) : List Char :=
  machine.runFrom machine.start bytes

/-- What stands for bytes without a character. -/
def malformed : List Char := [Text.Utf8.replacement]

/-- The character at a place of a table of rows. -/
def inTable? (rows : Array String) (width place : Nat) : Option Char := do
  let row ← rows[place / width]?
  let letter ← row.toList[place % width]?
  if letter == ' ' then none else some letter

/-- What follows when two bytes have no character: an ASCII byte is read again by itself. -/
def refused {σ : Type} (idle : σ) (byte : Nat) : List Char × σ :=
  (if byte < 0x80 then malformed ++ [Char.ofNat byte] else malformed, idle)

/-- Code units of 16 bits, high byte first or last. -/
inductive Utf16State where
  | idle
  | half (byte : Nat)
  | surrogate (high : Nat)
  | surrogateHalf (high byte : Nat)
deriving Repr

/-- What one code unit gives, after a high surrogate or without one. -/
def utf16Unit (high : Option Nat) (unit : Nat) : List Char × Utf16State :=
  let isHigh := 0xD800 ≤ unit && unit < 0xDC00
  let isLow := 0xDC00 ≤ unit && unit < 0xE000
  match high with
  | some high =>
    if isLow then ([Char.ofNat (0x10000 + (high - 0xD800) * 0x400 + (unit - 0xDC00))], .idle)
    else if isHigh then (malformed, .surrogate unit)
    else (malformed ++ [Char.ofNat unit], .idle)
  | none =>
    if isHigh then ([], .surrogate unit)
    else if isLow then (malformed, .idle)
    else ([Char.ofNat unit], .idle)

/-- UTF-16 in either byte order. -/
def utf16Machine (bigEndian : Bool) : Machine Utf16State where
  start := .idle
  feed state byte :=
    let unit (first : Nat) := if bigEndian then first * 256 + byte else byte * 256 + first
    match state with
    | .idle => ([], .half byte)
    | .half first => utf16Unit none (unit first)
    | .surrogate high => ([], .surrogateHalf high byte)
    | .surrogateHalf high first => utf16Unit (some high) (unit first)
  finish
    | .idle => []
    | _ => malformed

/-- A lead byte under way, or none. -/
abbrev LeadState := Option Nat

/-- Bytes in pairs: the lead bytes from 0x81 on, and the letters of a pair. -/
def pairs (letters : Nat → Nat → List Char) : Machine LeadState where
  start := none
  feed
    | none, byte =>
      if byte < 0x80 then ([Char.ofNat byte], none)
      else if 0x81 ≤ byte ∧ byte ≤ 0xFE then ([], some byte)
      else (malformed, none)
    | some lead, byte =>
      match letters lead byte with
      | [] => refused none byte
      | found => (found, none)
  finish state := if state.isSome then malformed else []

end Letterbox.Charset
