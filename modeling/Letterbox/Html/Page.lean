import Letterbox.Html.Estimate
import Letterbox.Html.Rule

/-!
# Pages

A page is what a marked-up text becomes as plain text: lines up to a width, the line under way, and
whether a block has just ended. Blanks are joined to one space, except in verbatim text. A word that does
not fit into the line goes to the next one; one that is too long for any line is cut. A page is too
narrow if not even one character fits.
-/

namespace Letterbox.Html

/-- Lines, the line under way and the word under way; all hold the last one first. -/
structure Page where
  width : Nat
  lines : List Line
  current : List Char
  /-- The columns of the line under way. -/
  filled : Nat
  word : List Char
  /-- The columns of the word under way. -/
  wordWidth : Nat
  /-- The number of spaces before the word under way. -/
  spaces : Nat
  blockEnded : Bool
  tooNarrow : Bool

namespace Page

/-- A page of a width without lines. -/
def blank (width : Nat) : Page :=
  { width := width
    lines := []
    current := []
    filled := 0
    word := []
    wordWidth := 0
    spaces := 0
    blockEnded := false
    tooNarrow := false }

/-- Ends the line under way, which may be empty. -/
def cutLine (page : Page) : Page :=
  { page with lines := .text page.current.reverse :: page.lines, current := [], filled := 0 }

/-- Ends the line under way, if there is one. -/
def finishLine (page : Page) : Page :=
  if page.current.isEmpty then page else page.cutLine

/-- Adds a character to the line, or to a new one. -/
def addCut (page : Page) (letter : Char) : Page :=
  let columns := Text.columns letter
  if page.filled + columns ≤ page.width then
    { page with current := letter :: page.current, filled := page.filled + columns }
  else if page.width < columns then { page with tooNarrow := true }
  else { page.cutLine with current := [letter], filled := columns }

/-- Adds spaces to the line. -/
def addSpaces (page : Page) (count : Nat) : Page :=
  { page with current := List.replicate count ' ' ++ page.current, filled := page.filled + count }

/-- Adds the word under way to the line, or to a new one. In verbatim text, spaces that do not fit into
the line go on in the next one. -/
def finishWord (verbatim : Bool) (page : Page) : Page :=
  if page.word.isEmpty then page
  else
    let room := page.width - page.filled
    let taken := { page with word := [], wordWidth := 0, spaces := 0 }
    if page.spaces + page.wordWidth ≤ room then
      let spaced := taken.addSpaces page.spaces
      { spaced with current := page.word ++ spaced.current, filled := spaced.filled + page.wordWidth }
    else
      let next :=
        if verbatim then taken.finishLine.addSpaces (min (page.spaces - room) page.width)
        else taken.finishLine
      if next.filled + page.wordWidth ≤ page.width then
        { next with current := page.word ++ next.current, filled := next.filled + page.wordWidth }
      else page.word.reverse.foldl addCut next

/-- Ends the line under way, unless it is empty. -/
def endLine (page : Page) : Page :=
  { (page.finishWord false).finishLine with spaces := 0 }

/-- Adds an empty line. -/
def addEmptyLine (page : Page) : Page :=
  let ended := page.endLine
  { ended with lines := .text [] :: ended.lines, blockEnded := false }

/-- Starts a block, with an empty line before it unless no line has text so far. -/
def startBlock (page : Page) : Page :=
  let ended := page.endLine
  { (if ended.lines.any Line.hasText then ended.addEmptyLine else ended) with blockEnded := false }

/-- Ends a block: what follows starts another. -/
def endBlock (page : Page) : Page :=
  { page with blockEnded := true }

/-- Whether nothing is on the line under way. -/
def isAtStart (page : Page) : Bool :=
  page.filled = 0 && page.wordWidth = 0

/-- Whether nothing is on the page. -/
def isBlank (page : Page) : Bool :=
  page.lines.isEmpty && page.current.isEmpty && page.word.isEmpty

/-- Goes to a new line, which leaves an empty one if nothing is on the line. -/
def breakLine (page : Page) : Page :=
  if page.isAtStart then page.addEmptyLine else page.endLine

/-- Whether a word ends before a character. The zero-width space is a break, and takes no column. -/
def endsWord (letter : Char) : Bool :=
  isSoftBlank letter || letter == '\u200b'

/-- Adds a character to the word under way; a control character has no place on a page. -/
def addToWord (page : Page) (letter : Char) : Page :=
  if Text.isControl letter then page
  else { page with word := letter :: page.word, wordWidth := page.wordWidth + Text.columns letter }

/-- Adds a blank of verbatim text; a tab goes to the next multiple of eight. Blanks that start a line, or
do not fit into it, count only before a word. -/
def addVerbatimBlank (page : Page) (letter : Char) : Page :=
  let done := page.finishWord true
  if letter == '\n' then { done.cutLine with spaces := 0 }
  else
    let place := done.filled + done.spaces
    let count := if letter == '\t' then 8 - place % 8 else Text.columns letter
    let shown := if done.filled = 0 then 0 else min count (done.width - done.filled)
    { done.addSpaces shown with spaces := done.spaces + (count - shown) }

/-- Adds a character. Blanks are joined, but for those of verbatim text. -/
def addLetter (verbatim : Bool) (page : Page) (letter : Char) : Page :=
  let done := if endsWord letter && 0 < page.wordWidth then page.finishWord verbatim else page
  if ! isSoftBlank letter then done.addToWord letter
  else if verbatim then done.addVerbatimBlank letter
  else if 0 < done.filled then { done with spaces := max done.spaces 1 }
  else done

/-- Adds text in a line. Blanks between blocks do not count. -/
def addText (page : Page) (verbatim : Bool) (letters : List Char) : Page :=
  if ! verbatim && page.blockEnded && letters.all Text.isBlank then page
  else
    let started := if page.blockEnded then page.startBlock else page
    letters.foldl (addLetter verbatim) started

/-- The lines of the page, in order. -/
def allLines (page : Page) : List Line :=
  page.endLine.lines.reverse

/-- The page, which is too narrow if another one is. -/
def withNarrowness (page other : Page) : Page :=
  { page with tooNarrow := page.tooNarrow || other.endLine.tooNarrow }

/-- Adds lines as they are. -/
def addLines (page : Page) (lines : List Line) : Page :=
  let ended := page.endLine
  { ended with lines := lines.reverse ++ ended.lines }

/-- Adds lines, the first behind one indent and the others behind another. -/
def addIndented (page : Page) (first later : List Char) (lines : List Line) : Page :=
  let behind (indent : List Char) (line : Line) : Line :=
    if indent.isEmpty then line else .text (indent ++ line.letters)
  match lines with
  | [] => page.endLine
  | line :: rest => page.addLines (behind first line :: rest.map (behind later))

end Page

end Letterbox.Html
