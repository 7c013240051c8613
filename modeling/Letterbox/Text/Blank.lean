/-!
# Blank characters

The characters that separate words are those with the Unicode property `White_Space`. This module
decides the property and trims, or cuts at, such characters. Texts are lists of characters, so that
lengths count characters; `byteSize` is the length in UTF-8.
-/

namespace Letterbox.Text

/-- Holds of exactly the characters with the Unicode property `White_Space`. -/
def isBlank (letter : Char) : Bool :=
  let code := letter.toNat
  (9 ≤ code && code ≤ 13) || code == 0x20 || code == 0x85 || code == 0xA0 || code == 0x1680
    || (0x2000 ≤ code && code ≤ 0x200A) || code == 0x2028 || code == 0x2029 || code == 0x202F
    || code == 0x205F || code == 0x3000

/-- Drops the blanks a text starts with. -/
def trimStart (text : List Char) : List Char :=
  text.dropWhile isBlank

/-- Drops the blanks a text ends with. -/
def trimEnd (text : List Char) : List Char :=
  (text.reverse.dropWhile isBlank).reverse

/-- Drops the blanks at both ends of a text. -/
def trim (text : List Char) : List Char :=
  trimEnd (trimStart text)

/-- The number of bytes of a text in UTF-8. -/
def byteSize : List Char → Nat
  | [] => 0
  | letter :: rest => letter.utf8Size + byteSize rest

@[simp] theorem byteSize_append (first second : List Char) :
    byteSize (first ++ second) = byteSize first + byteSize second := by
  induction first with
  | nil => simp [byteSize]
  | cons letter rest ih => simp [byteSize, ih, Nat.add_assoc]

/-- A piece of a text, with the byte offset at which it starts. -/
structure Piece where
  offset : Nat
  text : List Char
deriving DecidableEq, Repr

/-- The byte offset just after a piece. -/
def Piece.stop (piece : Piece) : Nat :=
  piece.offset + byteSize piece.text

/-- Puts a piece before others, unless it is empty. -/
def Piece.consNonempty (piece : Piece) (others : List Piece) : List Piece :=
  if piece.text.isEmpty then others else piece :: others

/-- The letters up to the first blank of a text that starts at `offset`, and the words after it. -/
def cutWords (offset : Nat) : List Char → List Char × List Piece
  | [] => ([], [])
  | letter :: rest =>
    let next := offset + letter.utf8Size
    let (first, others) := cutWords next rest
    if isBlank letter then ([], Piece.consNonempty ⟨next, first⟩ others)
    else (letter :: first, others)

/-- The words of a text: its maximal runs of characters that are not blank, in order. -/
def words (text : List Char) : List Piece :=
  let (first, others) := cutWords 0 text
  Piece.consNonempty ⟨0, first⟩ others

end Letterbox.Text
