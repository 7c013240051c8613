import Letterbox.Charset.Mail
import Letterbox.Mime.Transfer

/-!
# Encoded words

A word of a header in another character set is written as `=?charset?encoding?data?=`, where the
encoding is `q` for hexadecimal escapes or `b` for base64.
-/

namespace Letterbox.Mime

/-- What the data of a `q` word is being read as. -/
inductive WordState where
  | escape (state : EscapeState)
  | folding
deriving DecidableEq, Repr

/-- The bytes of the data of a `q` word, and what follows the word. -/
def quotedWord? : WordState → Bytes → Option (Bytes × Bytes)
  | _, [] => none
  | state, byte :: rest =>
    let add (state : EscapeState) (byte : UInt8) : Option (Bytes × Bytes) :=
      (quotedWord? (.escape state) rest).map fun (bytes, after) => (byte :: bytes, after)
    let escape := match state with
      | .escape escape => escape
      | .folding => .plain
    match Char.ofNat byte.toNat with
    | '?' =>
      match rest with
      | 0x3D :: after => some ([], after)
      | _ => add escape byte
    | '=' => if escape = .plain then quotedWord? (.escape .equals) rest else none
    | '_' => add escape 0x20
    | '\r' => quotedWord? (.escape escape) rest
    | '\n' => quotedWord? .folding rest
    | _ =>
      if state = .folding ∧ (byte == 0x20 || byte == 0x09) then quotedWord? .folding rest
      else
        match escape with
        | .plain => add .plain byte
        | .equals => do quotedWord? (.escape (.digit (← hexDigit? byte))) rest
        | .digit high => do add .plain (UInt8.ofNat (high * 16 + (← hexDigit? byte)))

/-- The bytes of the data of a `b` word, and what follows the word. -/
def base64Word? (text : Bytes) : Option (Bytes × Bytes) :=
  match text.dropWhile (· != 0x3F) with
  | _ :: 0x3D :: after =>
    (Text.Base64.decode? (text.takeWhile (· != 0x3F))).map fun bytes => (bytes, after)
  | _ => none

/-- The data of a word whose encoding is named by a letter. -/
def wordData? (encoding : UInt8) (text : Bytes) : Option (Bytes × Bytes) :=
  match Char.ofNat encoding.toNat with
  | 'q' | 'Q' => quotedWord? (.escape .plain) text
  | 'b' | 'B' => base64Word? text
  | _ => none

/--
The encoded word whose equals sign stands just before a text: its characters, and how many bytes of the
text belong to it. A star in the character set starts the name of a language.
-/
def encodedWord? (text : Bytes) : Option (List Char × Nat) :=
  match text with
  | 0x3F :: body =>
    let label := body.takeWhile (· != 0x3F)
    let charset := label.takeWhile (· != 0x2A)
    if label.contains 0x0A ∨ charset.length < 2 then none
    else
      match body.dropWhile (· != 0x3F) with
      | _ :: encoding :: 0x3F :: data => do
        let (bytes, after) ← wordData? encoding data
        some (Charset.readMail (some (Text.Utf8.decodeString charset)) bytes, text.length - after.length)
      | _ => none
  | _ => none

end Letterbox.Mime
