import Letterbox.Html.Estimate
import Letterbox.Html.Reader
import Letterbox.Html.Row

/-!
# Layout

Marked-up text as plain text: paragraphs apart, emphasis between asterisks, headings behind number
signs, lists behind bullets and numbers, quotations behind angle brackets, tables between rules, and the
targets of links at the end.
-/

namespace Letterbox.Html

/-- What is being laid out: the page, the targets of links so far (last first), how many strokes go
through the text, and whether it is verbatim. -/
structure Sheet where
  page : Page
  links : List (List Char)
  strokes : Nat
  verbatim : Bool

namespace Sheet

/-- A sheet of a width without text. -/
def blank (width : Nat) : Sheet := ⟨.blank width, [], 0, false⟩

/-- Changes the page. -/
def onPage (sheet : Sheet) (change : Page → Page) : Sheet :=
  { sheet with page := change sheet.page }

/-- A text struck through, but for the characters that take no column. -/
def strike (letters : List Char) : List Char :=
  letters.flatMap fun letter => if Text.columns letter = 0 then [letter] else [letter, '\u0336']

/-- Adds text. -/
def write (sheet : Sheet) (letters : List Char) : Sheet :=
  sheet.onPage (·.addText sheet.verbatim (Nat.repeat strike sheet.strokes letters))

/-- Lays something out between two marks. -/
def between (sheet : Sheet) (mark : String) (inner : Sheet → Sheet) : Sheet :=
  (inner (sheet.write mark.toList)).write mark.toList

/-- Lays something out on a page of its own, where text is neither verbatim nor struck through. -/
def apart (sheet : Sheet) (width : Nat) (inner : Sheet → Sheet) : Sheet × Page :=
  let done := inner ⟨.blank width, sheet.links, 0, false⟩
  ({ sheet with links := done.links }, done.page)

/-- Lays something out on a page of its own, narrower by the length of an indent, and gives its lines.
The sheet is too narrow if less than a width is left. -/
def inset (sheet : Sheet) (indent least : Nat) (inner : Sheet → Sheet) : Sheet × List Line :=
  let width := sheet.page.width - indent
  let (done, page) := sheet.apart (max width least) inner
  (done.onPage fun own =>
      { own.withNarrowness page with
        tooNarrow := (own.withNarrowness page).tooNarrow || decide (width < least) },
    page.allLines)

/-- Lays something out behind indents. -/
def indented (sheet : Sheet) (first later : List Char) (least : Nat) (inner : Sheet → Sheet) : Sheet :=
  let (done, lines) := sheet.inset later.length least inner
  done.onPage (·.addIndented first later lines)

/-- Lays something out as a block. -/
def block (sheet : Sheet) (inner : Sheet → Sheet) : Sheet :=
  (inner (sheet.onPage (·.startBlock))).onPage (·.endBlock)

/-- Lays something out behind indents as a block. -/
def indentedBlock (sheet : Sheet) (indent : List Char) (least : Nat) (inner : Sheet → Sheet) : Sheet :=
  let (done, lines) := sheet.inset indent.length least inner
  done.onPage fun page => (page.startBlock.addIndented indent indent lines).endBlock

end Sheet

/-- A text with spaces behind it up to a width. -/
def padded (width : Nat) (letters : List Char) : List Char :=
  letters ++ List.replicate (width - letters.length) ' '

/-- The raised forms of digits. -/
def raisedDigits : List Char := ['⁰', '¹', '²', '³', '⁴', '⁵', '⁶', '⁷', '⁸', '⁹']

/-- Digits in their raised forms, where pieces are nothing but digits. -/
def raised? : List Piece → Option (List Char)
  | [.text letters] =>
    if letters.all Char.isDigit then
      some (letters.map fun letter => (raisedDigits[letter.toNat - '0'.toNat]?).getD letter)
    else none
  | _ => none

/-- The widths of the columns, as far as the cells of a table see them. -/
inductive Grid where
  | beside (widths : List Nat)
  | stacked (width : Nat)

/-- The grid of a table on a page of a width. -/
def Grid.ofTable (width : Nat) (found : List Piece) : Grid :=
  match columnWidths? width (columnEstimates (estimatesOfRows found)) with
  | some widths => .beside widths
  | none => .stacked width

/-- The width of a table in a grid. -/
def Grid.width : Grid → Nat
  | beside widths => widths.foldr (· + ·) 0 + ((widths.filter (0 < ·)).length - 1)
  | stacked width => width

/-- The width of a cell of a span at a place in a row, if it has any. -/
def Grid.cellWidth? (grid : Grid) (place span : Nat) : Option Nat :=
  let own := match grid with
    | beside widths => ((widths.drop place).take span).foldr (· + ·) 0
    | stacked width => width
  if own = 0 then none else some (own + span - 1)

/-- Adds a row of cells to a page; some go on from the row above. Gives those that go on into the
next. -/
def Grid.addRow (grid : Grid) (page : Page) (held : List Column) (cells : List Piece)
    (pages : List Page) : Page × List Column :=
  match grid with
  | beside _ =>
    if pages.any (! ·.isBlank) || cells.any Piece.isHeld then
      page.addRow held (pages.zip (cells.map Piece.rowCount))
    else (pages.foldl Page.withNarrowness page, [])
  | stacked _ => (page.addStacked pages, [])

mutual

/-- Lays out a piece. -/
def Piece.layOut (sheet : Sheet) : Piece → Sheet
  | .text letters => sheet.write letters
  | .image [] => sheet
  | .image letters | .drawing letters => sheet.write (['['] ++ letters ++ [']'])
  | .lineBreak => sheet.onPage (·.breakLine)
  | .anchor => sheet
  | .group pieces => layOutAll sheet pieces
  | .marked mark pieces => sheet.between mark (layOutAll · pieces)
  | .struck pieces =>
    { layOutAll { sheet with strokes := sheet.strokes + 1 } pieces with strokes := sheet.strokes }
  | .raised pieces =>
    match raised? pieces with
    | some letters => sheet.write letters
    | none => (layOutAll (sheet.write ['^', '{']) pieces).write [Char.ofNat 0x7D]
  | .link target pieces =>
    let opened := sheet.write ['[']
    let inner := layOutAll { opened with links := target :: opened.links } pieces
    inner.write ([']', '['] ++ (toString inner.links.length).toList ++ [']'])
  | .paragraph pieces | .item pieces => sheet.block (layOutAll · pieces)
  | .verbatim pieces =>
    { sheet.block fun own => layOutAll { own with verbatim := true } pieces with
      verbatim := sheet.verbatim }
  | .division pieces => (layOutAll (sheet.onPage (·.endLine)) pieces).onPage (·.endLine)
  | .heading level pieces =>
    sheet.indentedBlock (List.replicate level '#' ++ [' ']) (estimateAll pieces).least
      (layOutAll · pieces)
  | .quotation pieces => sheet.indentedBlock ['>', ' '] (estimateAll pieces).least (layOutAll · pieces)
  | .bullets items => layOutBullets sheet (estimateAll items).least items
  | .numbered start items =>
    layOutNumbered sheet (labelWidth start items.length) (estimateAll items).least start items
  | .glossary pieces => layOutAll (sheet.onPage (·.startBlock)) pieces
  | .term pieces => (sheet.onPage (·.endLine)).between "*" (layOutAll · pieces)
  | .description pieces =>
    sheet.indented [' ', ' '] [' ', ' '] (estimateAll pieces).least (layOutAll · pieces)
  | .table found =>
    let grid := Grid.ofTable sheet.page.width found
    let width := grid.width
    let started := sheet.onPage (·.startBlock)
    let ruled := if width = 0 then started else started.onPage (·.addLines [.rule (Rule.ofWidth width)])
    layOutRows ruled grid [] found
  | .rows _ | .row _ | .cell _ _ _ | .held _ => sheet

/-- Lays out pieces in order. -/
def layOutAll (sheet : Sheet) : List Piece → Sheet
  | [] => sheet
  | piece :: rest => layOutAll (piece.layOut sheet) rest

/-- Lays out pieces behind bullets. -/
def layOutBullets (sheet : Sheet) (least : Nat) : List Piece → Sheet
  | [] => sheet
  | piece :: rest =>
    layOutBullets (sheet.indented ['*', ' '] [' ', ' '] least fun own => piece.layOut own) least rest

/-- Lays out pieces behind numbers of a width. -/
def layOutNumbered (sheet : Sheet) (width least : Nat) (number : Int) : List Piece → Sheet
  | [] => sheet
  | piece :: rest =>
    let label := padded width (itemLabel number)
    layOutNumbered
      (sheet.indented label (List.replicate width ' ') least fun own => piece.layOut own)
      width least (number + 1) rest

/-- Lays out the rows of a table; some cells go on from the row above. -/
def layOutRows (sheet : Sheet) (grid : Grid) (held : List Column) : List Piece → Sheet
  | [] => sheet
  | .row cells :: rest =>
    let (done, pages) := layOutCells sheet grid 0 cells
    let (page, next) := grid.addRow done.page held cells pages
    layOutRows { done with page := page } grid next rest
  | _ :: rest => layOutRows sheet grid held rest

/-- Lays out the cells of a row from a place on, each on a page of its own. -/
def layOutCells (sheet : Sheet) (grid : Grid) (place : Nat) : List Piece → Sheet × List Page
  | [] => (sheet, [])
  | .cell span _ pieces :: rest =>
    match grid.cellWidth? place span with
    | none => layOutCells sheet grid (place + span) rest
    | some width =>
      let (done, page) := sheet.apart width (layOutAll · pieces)
      let (last, pages) := layOutCells done grid (place + span) rest
      (last, page :: pages)
  | .held span :: rest =>
    let (last, pages) := layOutCells sheet grid (place + span) rest
    (last, (grid.cellWidth? place span).elim pages fun width => .blank width :: pages)
  | _ :: rest => layOutCells sheet grid place rest

end

/-- The lines that give the targets of links by number; a target stands on one line. -/
def linkLines (links : List (List Char)) : List Line :=
  links.zipIdx.map fun (target, place) =>
    Line.text (['['] ++ (toString (place + 1)).toList ++ [']', ':', ' ']
      ++ target.map fun letter => if letter == '\n' then ' ' else letter)

/-- A marked-up text as plain text on a page of a width; none if it does not fit there. -/
def plainText? (width : Nat) (markup : List Char) : Option (List Char) :=
  let sheet := layOutAll (.blank width) (Node.piecesOf (nodesOf markup))
  let page :=
    if sheet.links.isEmpty then sheet.page.endLine
    else sheet.page.startBlock.addLines (linkLines sheet.links.reverse)
  if page.tooNarrow then none
  else some (page.allLines.flatMap fun line => line.letters ++ ['\n'])

end Letterbox.Html
