import Letterbox.Json

/-!
# Reading JSON

One value, with nothing but blanks around it. The grammar is strict: no comments, no trailing commas,
no raw control characters in strings, no leading zeros.
-/

namespace Letterbox.Json

/-- The blanks between the tokens of a text. -/
def isSpace (letter : Char) : Bool :=
  letter == ' ' || letter == '\n' || letter == '\t' || letter == '\r'

/-- The text after its leading blanks. -/
def skipSpace (text : List Char) : List Char :=
  text.dropWhile isSpace

/-- The value of a hexadecimal digit. -/
def hexValue? (letter : Char) : Option Nat :=
  if '0' ≤ letter ∧ letter ≤ '9' then some (letter.toNat - '0'.toNat)
  else if 'a' ≤ letter ∧ letter ≤ 'f' then some (letter.toNat - 'a'.toNat + 10)
  else if 'A' ≤ letter ∧ letter ≤ 'F' then some (letter.toNat - 'A'.toNat + 10)
  else none

/-- The code unit that four hexadecimal digits write. -/
def hexUnit? (first second third fourth : Char) : Option Nat := do
  return (((← hexValue? first) * 16 + (← hexValue? second)) * 16 + (← hexValue? third)) * 16
    + (← hexValue? fourth)

/-- The character that a one-letter escape stands for. -/
def escape? : Char → Option Char
  | '"' => some '"'
  | '\\' => some '\\'
  | '/' => some '/'
  | 'b' => some '\x08'
  | 'f' => some '\x0c'
  | 'n' => some '\n'
  | 'r' => some '\r'
  | 't' => some '\t'
  | _ => none

/-- A piece of a string literal: a character, or one half of a surrogate pair. -/
inductive Unit16 where
  | letter (value : Char)
  | high (code : Nat)
  | low (code : Nat)
deriving DecidableEq, Repr

/-- What a code unit stands for. -/
def Unit16.ofCode (code : Nat) : Unit16 :=
  if 0xD800 ≤ code ∧ code < 0xDC00 then .high code
  else if 0xDC00 ≤ code ∧ code < 0xE000 then .low code
  else .letter (Char.ofNat code)

/-- The pieces up to the closing quote of a string literal, and the text after it. -/
def readUnits : List Char → Option (List Unit16 × List Char)
  | [] => none
  | '"' :: rest => some ([], rest)
  | '\\' :: 'u' :: first :: second :: third :: fourth :: rest => do
    let code ← hexUnit? first second third fourth
    let (units, after) ← readUnits rest
    some (Unit16.ofCode code :: units, after)
  | '\\' :: letter :: rest => do
    let value ← escape? letter
    let (units, after) ← readUnits rest
    some (.letter value :: units, after)
  | letter :: rest => do
    if letter.toNat < 0x20 ∨ letter == '\\' then none
    else
      let (units, after) ← readUnits rest
      some (.letter letter :: units, after)

/-- The characters of a literal; a surrogate must have its other half. -/
def joinUnits : List Unit16 → Option (List Char)
  | [] => some []
  | .letter value :: rest => (joinUnits rest).map (value :: ·)
  | .high first :: .low second :: rest =>
    (joinUnits rest).map
      (Char.ofNat (0x10000 + (first - 0xD800) * 0x400 + (second - 0xDC00)) :: ·)
  | _ => none

/-- A string literal after its opening quote. -/
def readString (text : List Char) : Option (Option String × List Char) :=
  (readUnits text).map fun (units, after) => ((joinUnits units).map String.ofList, after)

/-- The digits at the start of a text; there must be one. -/
def readSomeDigits (text : List Char) : Option (List Char × List Char) :=
  let digits := text.takeWhile Char.isDigit
  if digits.isEmpty then none else some (digits, text.dropWhile Char.isDigit)

/-- The integer part of a number: a zero, or digits that do not start with one. -/
def readWhole (text : List Char) : Option (List Char × List Char) := do
  let (digits, after) ← readSomeDigits text
  if digits.head? = some '0' ∧ digits.length ≠ 1 then none else some (digits, after)

/-- The fraction of a number, if it has one. -/
def readFraction (text : List Char) : Option (List Char × List Char) :=
  match text with
  | '.' :: rest => (readSomeDigits rest).map fun (digits, after) => ('.' :: digits, after)
  | _ => some ([], text)

/-- The exponent of a number, if it has one. -/
def readExponent (text : List Char) : Option (List Char × List Char) :=
  match text with
  | letter :: rest =>
    if letter == 'e' || letter == 'E' then
      match rest with
      | '+' :: digits => (readSomeDigits digits).map fun (found, after) => ('e' :: '+' :: found, after)
      | '-' :: digits => (readSomeDigits digits).map fun (found, after) => ('e' :: '-' :: found, after)
      | _ => (readSomeDigits rest).map fun (found, after) => ('e' :: found, after)
    else some ([], text)
  | [] => some ([], text)

/-- A number without its sign. -/
def readUnsigned (text : List Char) : Option (List Char × List Char) := do
  let (whole, text) ← readWhole text
  let (fraction, text) ← readFraction text
  let (exponent, text) ← readExponent text
  some (whole ++ fraction ++ exponent, text)

/-- A number. -/
def readNumber (text : List Char) : Option (List Char × List Char) :=
  match text with
  | '-' :: rest => (readUnsigned rest).map fun (literal, after) => ('-' :: literal, after)
  | _ => readUnsigned text

/-- A number or one of the words `null`, `true` and `false`. -/
def readAtom (text : List Char) : Option (Json × List Char) :=
  match text with
  | 'n' :: 'u' :: 'l' :: 'l' :: rest => some (.null, rest)
  | 't' :: 'r' :: 'u' :: 'e' :: rest => some (.bool true, rest)
  | 'f' :: 'a' :: 'l' :: 's' :: 'e' :: rest => some (.bool false, rest)
  | _ => (readNumber text).map fun (literal, after) => (.number (String.ofList literal), after)

mutual

/-- The value at the start of a text, blanks before it allowed. -/
def readValue : Nat → List Char → Option (Json × List Char)
  | 0, _ => none
  | fuel + 1, letters =>
    match skipSpace letters with
    | '"' :: rest => (readString rest).map fun (content, after) => (.text content, after)
    | '[' :: rest =>
      match skipSpace rest with
      | ']' :: after => some (.array [], after)
      | _ => (readItems fuel rest).map fun (items, after) => (.array items, after)
    | '{' :: rest =>
      match skipSpace rest with
      | '}' :: after => some (.object [], after)
      | _ => (readMembers fuel rest).map fun (members, after) => (.object members, after)
    | atom => readAtom atom

/-- The items of an array, at least one, up to its closing bracket. -/
def readItems : Nat → List Char → Option (List Json × List Char)
  | 0, _ => none
  | fuel + 1, letters =>
    match readValue fuel letters with
    | none => none
    | some (item, rest) =>
      match skipSpace rest with
      | ',' :: more => (readItems fuel more).map fun (items, after) => (item :: items, after)
      | ']' :: after => some ([item], after)
      | _ => none

/-- The members of an object, at least one, up to its closing brace. -/
def readMembers : Nat → List Char → Option (List (Option String × Json) × List Char)
  | 0, _ => none
  | fuel + 1, letters =>
    match skipSpace letters with
    | '"' :: rest =>
      match readString rest with
      | none => none
      | some (key, rest) =>
        match skipSpace rest with
        | ':' :: rest =>
          match readValue fuel rest with
          | none => none
          | some (value, rest) =>
            match skipSpace rest with
            | ',' :: more =>
              (readMembers fuel more).map fun (members, after) => ((key, value) :: members, after)
            | '}' :: after => some ([(key, value)], after)
            | _ => none
        | _ => none
    | _ => none

end

/-- The value that a whole text writes. -/
def read (text : List Char) : Option Json :=
  match readValue (2 * text.length + 2) text with
  | some (value, rest) => if (skipSpace rest).isEmpty then some value else none
  | none => none

/-- The value that a string writes. -/
def ofString? (text : String) : Option Json :=
  read text.toList

end Letterbox.Json
