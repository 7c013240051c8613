import Letterbox.Charset.SingleByte
import Letterbox.Html.NamedCharacters

/-!
# Character references

A marked-up text may name a character by its number or by a name, between an ampersand and a semicolon.
-/

namespace Letterbox.Html

/-- A named character: whether the name may do without a semicolon, and what it stands for. -/
structure NamedCharacter where
  name : List Char
  bare : Bool
  letters : List Char
deriving Repr

/-- The value of hexadecimal digits. -/
def hexValue (digits : List Char) : Nat :=
  digits.foldl
    (fun value digit =>
      value * 16
        + if digit.isDigit then digit.toNat - '0'.toNat
          else digit.toLower.toNat - 'a'.toNat + 10)
    0

/-- An entry of the table of named characters. -/
def NamedCharacter.ofEntry (entry : String) : NamedCharacter :=
  let letters := entry.toList
  let bare := letters.head? == some '~'
  let body := if bare then letters.drop 1 else letters
  let codes := (body.dropWhile (· != '=')).drop 1
  let first := codes.takeWhile (· != '-')
  let second := (codes.dropWhile (· != '-')).drop 1
  { name := body.takeWhile (· != '=')
    bare := bare
    letters :=
      Char.ofNat (hexValue first) :: if second.isEmpty then [] else [Char.ofNat (hexValue second)] }

/-- The named characters whose names a text may start with. -/
def namedCandidates (text : List Char) : List NamedCharacter :=
  match text with
  | [] => []
  | letter :: _ =>
    let entries := namedCharacterRows.flatMap fun row => row.splitOn " "
    (entries.map NamedCharacter.ofEntry).filter fun named => named.name.head? == some letter

/-- The characters of the longest name that a text starts with, and the rest of the text. -/
def namedReference? (inAttribute : Bool) (text : List Char) : Option (List Char × List Char) :=
  let candidates := namedCandidates text
  let name := text.takeWhile Char.isAlphanum
  let complete? :=
    if (text.drop name.length).head? == some ';' then candidates.find? (·.name == name) else none
  match complete? with
  | some named => some (named.letters, text.drop (name.length + 1))
  | none =>
    let fitting := candidates.filter fun named => named.bare && named.name.isPrefixOf text
    let longest := fitting.foldl
      (fun (best : Option NamedCharacter) named =>
        if (best.elim 0 (·.name.length)) < named.name.length then some named else best)
      none
    match longest with
    | none => none
    | some named =>
      let rest := text.drop named.name.length
      let goesOn := match rest with
        | letter :: _ => letter == '=' || letter.isAlphanum
        | [] => false
      if rest.head? == some ';' then some (named.letters, rest.drop 1)
      else if inAttribute && goesOn then none
      else some (named.letters, rest)

/-- The character with a number; the control characters from 128 on are read as in windows-1252. -/
def numberedCharacter (code : Nat) : Char :=
  if code = 0 ∨ 0x10FFFF < code ∨ (0xD800 ≤ code ∧ code ≤ 0xDFFF) then '\ufffd'
  else if 0x80 ≤ code ∧ code ≤ 0x9F then (Charset.windows1252.toList[code - 0x80]?).getD '\ufffd'
  else Char.ofNat code

/-- Whether a character is a hexadecimal digit. -/
def isHexDigit (letter : Char) : Bool :=
  letter.isDigit || ('a' ≤ letter.toLower && letter.toLower ≤ 'f')

/-- The rest of a text without a semicolon at its start. -/
def dropSemicolon (text : List Char) : List Char :=
  if text.head? == some ';' then text.drop 1 else text

/-- The characters of the reference behind an ampersand, and the rest of the text. -/
def reference? (inAttribute : Bool) : List Char → Option (List Char × List Char)
  | '#' :: mark :: rest =>
    if mark == 'x' || mark == 'X' then
      let digits := rest.takeWhile isHexDigit
      if digits.isEmpty then none
      else some ([numberedCharacter (hexValue digits)], dropSemicolon (rest.drop digits.length))
    else
      let digits := (mark :: rest).takeWhile Char.isDigit
      if digits.isEmpty then none
      else
        let code := digits.foldl (fun value digit => value * 10 + (digit.toNat - '0'.toNat)) 0
        some ([numberedCharacter code], dropSemicolon ((mark :: rest).drop digits.length))
  | text => namedReference? inAttribute text

/-- The text with its references replaced by characters; anything else stays as it is. -/
def resolve (inAttribute : Bool) (fuel : Nat) (text : List Char) : List Char :=
  match fuel with
  | 0 => text
  | fuel + 1 =>
    match text with
    | [] => []
    | letter :: rest =>
      if letter == '&' then
        match reference? inAttribute rest with
        | some (letters, after) => letters ++ resolve inAttribute fuel after
        | none => letter :: resolve inAttribute fuel rest
      else letter :: resolve inAttribute fuel rest

/-- The text with its references replaced by characters. -/
def resolveReferences (inAttribute : Bool) (text : List Char) : List Char :=
  if text.contains '&' then resolve inAttribute text.length text else text

end Letterbox.Html
