import Letterbox.Text.LowerCase.Ranges

/-!
# Lower case

The full lower-case form of a text. Each character has one form, with two exceptions: the dotted
capital I becomes two characters, and a capital sigma becomes the final form at the end of a word.
-/

namespace Letterbox.Text

/-- The distance to the lower-case form, looked up in sorted ranges. -/
def caseShift (code : Nat) : List CaseRange → Int
  | [] => 0
  | range :: rest =>
    if code < range.first then 0
    else if range.covers code then range.shift
    else caseShift code rest

/-- The lower-case form of a character that has a single one whatever stands beside it. -/
def lowerSimple (letter : Char) : Char :=
  Char.ofNat ((letter.toNat : Int) + caseShift letter.toNat lowerRanges).toNat

/-- Whether a code point lies in one of the sorted inclusive ranges. -/
def inRanges (code : Nat) : List (Nat × Nat) → Bool
  | [] => false
  | (first, last) :: rest =>
    if code < first then false else code ≤ last || inRanges code rest

/-- Whether a character is a letter that has case. -/
def isCased (letter : Char) : Bool :=
  inRanges letter.toNat casedRanges

/-- Whether word-final rules look past a character. -/
def isCaseIgnorable (letter : Char) : Bool :=
  inRanges letter.toNat caseIgnorableRanges

/-- Whether the first character that is not case-ignorable has case. -/
def meetsCased : List Char → Bool
  | [] => false
  | letter :: rest => if isCaseIgnorable letter then meetsCased rest else isCased letter

/-- The lower-case form of a character between the reversed text before it and the text after it. -/
def lowerLetter (before : List Char) (letter : Char) (after : List Char) : List Char :=
  if letter == 'Σ' then [if meetsCased before && ! meetsCased after then 'ς' else 'σ']
  else if letter == 'İ' then ['i', '\u0307']
  else [lowerSimple letter]

/-- The lower-case form of a text that follows the reversed text `before`. -/
def lowerAfter (before : List Char) : List Char → List Char
  | [] => []
  | letter :: rest => lowerLetter before letter rest ++ lowerAfter (letter :: before) rest

/-- The lower-case form of a text. -/
def lower (text : List Char) : List Char :=
  lowerAfter [] text

/-- The lower-case form of a string. -/
def lowerString (text : String) : String :=
  String.ofList (lower text.toList)

/-- The lower-case form of an ASCII letter; any other character stays. -/
def lowerAscii (text : String) : String :=
  String.ofList (text.toList.map Char.toLower)

end Letterbox.Text
