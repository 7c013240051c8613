import Letterbox.Text.LowerCase
import Letterbox.Text.Width.Ranges

/-!
# Width

How many columns a text takes where all columns are equally wide. A mark that stands on the character
before it takes no column, and a control character has no width at all. A text may be narrower than its
characters one by one: some of them join into one letter or one picture.
-/

namespace Letterbox.Text

/-- Whether a character is a control character. -/
def isControl (letter : Char) : Bool :=
  let code := letter.toNat
  code < 0x20 || (0x7F ≤ code && code < 0xA0)

/-- The number of columns of a character that is no control character. -/
def columns (letter : Char) : Nat :=
  let code := letter.toNat
  if isControl letter then 0
  else if code < 0x7F then 1
  else if inRanges code zeroWidthRanges then 0
  else if inRanges code doubleWidthRanges then 2
  else 1

/-- What stands right behind a place in a text, as far as a character at the place may join it. -/
inductive Behind where
  | plain
  | picture
  /-- A joiner with a picture behind it. -/
  | joinedPicture
  /-- A shade of skin, on its own or with a picture joined to it. -/
  | tint
  /-- The mark that makes a picture of a sign; a picture may be joined to it. -/
  | pictureSelector (joined : Bool)
  /-- The mark that makes a sign of a picture. -/
  | signSelector
  | alef
  | joinedLamed
  | coengLetter
  | tifinagh
  | joinedTifinagh
  | tifinaghJoiner
  | lisuTone
  | joinedOrkhonI
  | joinedYa
  | vowelWithYa
deriving DecidableEq, Repr

/-- Whether a code point is a letter of one of the kinds of lam. -/
def isLam (code : Nat) : Bool :=
  inRanges code [(0x644, 0x644), (0x6B5, 0x6B8), (0x76A, 0x76A), (0x8A6, 0x8A6), (0x8C7, 0x8C7)]

/-- Whether a code point is a letter of one of the kinds of alef. -/
def isAlef (code : Nat) : Bool :=
  inRanges code
    [(0x622, 0x623), (0x625, 0x625), (0x627, 0x627), (0x671, 0x673), (0x675, 0x675), (0x773, 0x774),
      (0x870, 0x882)]

/-- Whether two letters join across a character. -/
def isTransparent (code : Nat) : Bool :=
  inRanges code zeroWidthRanges
    && ! inRanges code [(0x1160, 0x11FF), (0x200C, 0x200D), (0x2066, 0x2069), (0xD7B0, 0xD7FF)]

/-- Whether a code point is a Tifinagh consonant. -/
def isTifinagh (code : Nat) : Bool :=
  (0x2D31 ≤ code && code ≤ 0x2D65) || code == 0x2D6F

/-- Whether a code point is a Khmer letter that a coeng puts below the one before. -/
def isCoengLetter (code : Nat) : Bool :=
  inRanges code
    [(0x1780, 0x1782), (0x1784, 0x1787), (0x1789, 0x178C), (0x178E, 0x1793), (0x1795, 0x1798),
      (0x179B, 0x179D), (0x17A0, 0x17A0), (0x17A2, 0x17A2), (0x17A7, 0x17A7), (0x17AB, 0x17AC),
      (0x17AF, 0x17AF)]

/-- What a character makes of its place for the character before it, if it joins nothing. -/
def Behind.ofCode (code : Nat) : Behind :=
  if code == 0xFE0F then pictureSelector false
  else if code == 0xFE0E then signSelector
  else if 0x1F3FB ≤ code && code ≤ 0x1F3FF then tint
  else if isAlef code then alef
  else if isCoengLetter code then coengLetter
  else if isTifinagh code then tifinagh
  else if code == 0xA4FC || code == 0xA4FD then lisuTone
  else if inRanges code pictureRanges then picture
  else plain

/-- How a character joins what stands behind it: the columns that it adds, and what it is for the
character before it. -/
def Behind.join? (behind : Behind) (code : Nat) : Option (Int × Behind) :=
  match behind with
  | plain | picture =>
    if behind == picture && code == 0x200D then some (0, joinedPicture) else none
  | joinedPicture =>
    if code == 0xFE0F then some (0, pictureSelector true)
    else if 0x1F3FB ≤ code && code ≤ 0x1F3FF then some (0, tint)
    else if inRanges code pictureRanges then some (0, picture)
    else none
  | tint => if inRanges code tintableRanges then some (0, picture) else none
  | pictureSelector joined =>
    if inRanges code signRanges || inRanges code selectableRanges then
      some (if joined then 0 else 2, picture)
    else none
  | signSelector => if inRanges code selectableRanges then some (1, plain) else none
  | alef =>
    if isLam code then some (0, plain) else if isTransparent code then some (0, alef) else none
  | joinedLamed => if code == 0x5D0 then some (0, plain) else none
  | coengLetter => if code == 0x17D2 then some (-1, plain) else none
  | tifinagh =>
    if code == 0x2D7F then some (1, tifinaghJoiner)
    else if code == 0x200D then some (0, joinedTifinagh)
    else none
  | joinedTifinagh =>
    if code == 0x2D7F then some (1, tifinaghJoiner)
    else if isTifinagh code then some (0, plain)
    else none
  | tifinaghJoiner => if isTifinagh code then some (-1, plain) else none
  | lisuTone => if 0xA4F8 ≤ code && code ≤ 0xA4FB then some (0, plain) else none
  | joinedOrkhonI => if code == 0x10C32 then some (0, plain) else none
  | joinedYa => if code == 0x1A17 then some (0, vowelWithYa) else none
  | vowelWithYa => if code == 0x1A15 then some (0, plain) else none

/-- The columns of a text, and what its start is for a character before it. -/
def measure : List Char → Int × Behind
  | [] => (0, .plain)
  | letter :: rest =>
    let (size, behind) := measure rest
    let code := letter.toNat
    match behind.join? code with
    | some (added, next) => (size + added, next)
    | none =>
      let next :=
        match code, rest.head?.map Char.toNat with
        | 0x200D, some 0x5DC => .joinedLamed
        | 0x200D, some 0x10C03 => .joinedOrkhonI
        | 0x200D, some 0x1A10 => .joinedYa
        | _, _ => .ofCode code
      (size + columns letter, next)

/-- The number of columns of a text. -/
def width (text : List Char) : Nat :=
  (measure text).1.toNat

end Letterbox.Text
