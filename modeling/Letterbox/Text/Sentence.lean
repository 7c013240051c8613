import Letterbox.Text.Blank

/-!
# Sentences

A text is searched sentence by sentence. A closing mark belongs to the sentence that it ends, a line
break to none, and a sentence does not start with a blank.
-/

namespace Letterbox.Text

/-- The marks that end a sentence; each stays its last character. -/
def closingMarks : List Char :=
  ['，', '。', '！', '？', '；', ',', '!', '?', ';']

/-- Line breaks end a sentence and belong to none. -/
def isLineBreak (letter : Char) : Bool :=
  letter == '\n' || letter == '\r'

/--
The letters of a text that starts at `offset`, up to and with its first closing mark or up to its
first line break, and the segments after them. A segment may be empty or start with blanks.
-/
def cutSegments (offset : Nat) : List Char → List Char × List Piece
  | [] => ([], [])
  | letter :: rest =>
    let next := offset + letter.utf8Size
    let (first, others) := cutSegments next rest
    if isLineBreak letter then ([], ⟨next, first⟩ :: others)
    else if closingMarks.contains letter then ([letter], ⟨next, first⟩ :: others)
    else (letter :: first, others)

/-- A piece without its leading blanks; the offset moves past them. -/
def Piece.trimStart (piece : Piece) : Piece where
  offset := piece.offset + byteSize (piece.text.takeWhile isBlank)
  text := Text.trimStart piece.text

/-- The sentences of a text, in order. -/
def sentences (text : List Char) : List Piece :=
  let (first, others) := cutSegments 0 text
  ((⟨0, first⟩ :: others).map Piece.trimStart).filter (! ·.text.isEmpty)

end Letterbox.Text
