/-!
# UTF-8

Bytes of UTF-8 and the characters they stand for. Bytes that stand for none become U+FFFD, one for each
longest start of a character that is not carried on.
-/

namespace Letterbox.Text.Utf8

/-- The character that stands for what cannot be decoded. -/
def replacement : Char := '\ufffd'

/--
A character of which some bytes are missing: its bits so far, the number of missing bytes, and the
bounds for the next one.
-/
structure Partial where
  bits : Nat
  missing : Nat
  least : Nat
  most : Nat
deriving DecidableEq, Repr

/-- What the first byte of a character says. -/
inductive Opening where
  | letter (value : Char)
  | sequence (start : Partial)
  | invalid
deriving Repr

/-- What a byte says when no character is under way. -/
def opening (byte : Nat) : Opening :=
  if byte < 0x80 then .letter (Char.ofNat byte)
  else if byte < 0xC2 then .invalid
  else if byte < 0xE0 then .sequence ⟨byte - 0xC0, 1, 0x80, 0xBF⟩
  else if byte < 0xF0 then
    .sequence ⟨byte - 0xE0, 2, if byte = 0xE0 then 0xA0 else 0x80, if byte = 0xED then 0x9F else 0xBF⟩
  else if byte < 0xF5 then
    .sequence ⟨byte - 0xF0, 3, if byte = 0xF0 then 0x90 else 0x80, if byte = 0xF4 then 0x8F else 0xBF⟩
  else .invalid

/-- Whether a byte carries a character on. -/
def Partial.accepts (start : Partial) (byte : Nat) : Bool :=
  start.least ≤ byte && byte ≤ start.most

/-- The character after one more byte. -/
def Partial.extend (start : Partial) (byte : Nat) : Partial :=
  ⟨start.bits * 64 + (byte - 0x80), start.missing - 1, 0x80, 0xBF⟩

/-- Decodes bytes after the start of a character, if one is under way. `none` marks invalid bytes. -/
def decodeAfter : Option Partial → List UInt8 → List (Option Char)
  | none, [] => []
  | some _, [] => [none]
  | none, byte :: rest =>
    match opening byte.toNat with
    | .letter value => some value :: decodeAfter none rest
    | .sequence start => decodeAfter (some start) rest
    | .invalid => none :: decodeAfter none rest
  | some start, byte :: rest =>
    if start.accepts byte.toNat then
      let extended := start.extend byte.toNat
      if extended.missing = 0 then some (Char.ofNat extended.bits) :: decodeAfter none rest
      else decodeAfter (some extended) rest
    else
      none ::
        match opening byte.toNat with
        | .letter value => some value :: decodeAfter none rest
        | .sequence next => decodeAfter (some next) rest
        | .invalid => none :: decodeAfter none rest

/-- The characters of bytes, with U+FFFD for what is not UTF-8. -/
def decode (bytes : List UInt8) : List Char :=
  (decodeAfter none bytes).map fun letter => letter.getD replacement

/-- The string of bytes, with U+FFFD for what is not UTF-8. -/
def decodeString (bytes : List UInt8) : String :=
  String.ofList (decode bytes)

/-- The string of bytes that are UTF-8 throughout. -/
def decode? (bytes : List UInt8) : Option String :=
  ((decodeAfter none bytes).mapM id).map String.ofList

/-- The bytes of a character. -/
def encodeLetter (letter : Char) : List UInt8 :=
  let code := letter.toNat
  let tail (shift : Nat) : UInt8 := UInt8.ofNat (0x80 + code / shift % 64)
  if code < 0x80 then [UInt8.ofNat code]
  else if code < 0x800 then [UInt8.ofNat (0xC0 + code / 64), tail 1]
  else if code < 0x10000 then [UInt8.ofNat (0xE0 + code / 4096), tail 64, tail 1]
  else [UInt8.ofNat (0xF0 + code / 262144), tail 4096, tail 64, tail 1]

/-- The bytes of a string. -/
def encode (text : String) : List UInt8 :=
  text.toList.flatMap encodeLetter

end Letterbox.Text.Utf8
