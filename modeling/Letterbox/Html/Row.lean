import Letterbox.Html.Page

/-!
# Rows of a table

The cells of a row stand beside each other, each as wide as its column, with lines between them and a
rule below. A rule with which a cell starts or ends becomes part of the rule above or below the row. A
cell that goes on into the next row has its share of lines in this one; its next line stands in a gap of
the rule below.
-/

namespace Letterbox.Html

/-- A cell on its way onto a page: where it starts, its lines, what stands below the last one, and into
how many rows it goes. -/
structure Column where
  start : Nat
  width : Nat
  lines : List Line
  below : List Char
  rows : Nat

namespace Column

/-- A cell of a number of rows that starts at a place. -/
def ofPage (start : Nat) (page : Page) (rows : Nat) : Column :=
  ⟨start, page.width, page.allLines.map (Line.pad page.width), List.replicate page.width ' ', rows⟩

/-- The cells of a row from a place on. A cell that comes from the row above takes the place of the one
that starts where it does. -/
def ofCells (held : List Column) (start : Nat) : List (Page × Nat) → List Column
  | [] => []
  | (page, rows) :: rest =>
    (held.find? (·.start == start)).getD (ofPage start page rows)
      :: ofCells held (start + page.width + 1) rest

/-- The number of lines of a cell in one row. -/
def height (column : Column) : Nat :=
  if column.rows ≤ 1 then column.lines.length else column.lines.length / column.rows

/-- The characters of a cell in one of the lines of its row. -/
def lettersAt (number : Nat) (column : Column) : List Char :=
  (column.lines[number]?).elim column.below Line.letters

/-- What is left of a cell below the first lines, where it goes on into the next row. -/
def rest? (height : Nat) (column : Column) : Option Column :=
  if column.rows ≤ 1 then none
  else
    some { column with
      lines := column.lines.drop height
      below := List.replicate column.width ' '
      rows := column.rows - 1 }

/-- The gap that a cell needs in the rule below a row. -/
def gap (column : Column) : Gap :=
  ⟨column.start, column.width, column.lettersAt 0⟩

/-- Takes the rules with which cells start into the rule above the row. -/
def takeFirstRules (above : Rule) : List Column → Rule × List Column
  | [] => (above, [])
  | column :: rest =>
    match column.lines with
    | .rule own :: lines =>
      let (done, others) := takeFirstRules (above.merge Joint.withBelow column.start own) rest
      (done, { column with lines := lines } :: others)
    | _ =>
      let (done, others) := takeFirstRules above rest
      (done, column :: others)

/-- Takes the rules with which cells end into the rule below the row. What met such a rule from above
goes on to the end of the row. -/
def takeLastRules (below : Rule) : List Column → Rule × List Column
  | [] => (below, [])
  | column :: rest =>
    match column.lines.getLast?.bind Line.rule? with
    | some own =>
      let (done, others) := takeLastRules (below.merge Joint.withAbove column.start own) rest
      let bare := { column with lines := column.lines.dropLast, below := own.joints.map Joint.upper }
      (done, bare :: others)
    | none =>
      let (done, others) := takeLastRules below rest
      (done, column :: others)

/-- The lines of a row of a height. -/
def rowLines (height : Nat) (columns : List Column) : List Line :=
  (List.range height).map fun number =>
    .text (['│'].intercalate (columns.map (lettersAt number)))

end Column

namespace Page

/-- Adds a row of cells, each on a page of its own and with the number of its rows, below the rule that is
the last line so far; some cells come from the row above. Gives the cells that go on into the next row. -/
def addRow (page : Page) (held : List Column) (cells : List (Page × Nat)) : Page × List Column :=
  let ended := cells.foldl (fun page cell => page.withNarrowness cell.1) page.endLine
  let columns := Column.ofCells held 0 cells
  let joints := (columns.drop 1).map fun column => column.start - 1
  let meet (change : Joint → Joint) (rule : Rule) : Rule :=
    joints.foldl (fun rule place => rule.alter change place) rule
  let total := (cells.map (·.1.width)).foldr (· + ·) 0 + (cells.length - 1)
  let (above, others) :=
    match ended.lines with
    | .rule rule :: others => (rule.stretch total, others)
    | others => (Rule.ofWidth 0, others)
  let (top, untopped) := Column.takeFirstRules (meet Joint.withBelow above) columns
  let (bottom, bare) :=
    Column.takeLastRules (meet Joint.withAbove (Rule.ofWidth total)) untopped
  let height := (bare.map Column.height).foldl max 0
  let next := bare.filterMap (Column.rest? height)
  let gapped := next.foldl (fun rule column => rule.withGap column.gap) bottom
  let lines := Column.rowLines height bare ++ [Line.rule gapped]
  ({ ended with lines := .rule top :: others }.addLines lines,
    next.map fun column => { column with lines := column.lines.drop 1 })

/-- Adds the cells of a row below each other, with rules between them and below the last. -/
def addStacked (page : Page) (cells : List Page) : Page :=
  let ended := cells.foldl withNarrowness page.endLine
  let between := Line.rule ⟨List.replicate page.width .slant, []⟩
  let lines := [between].intercalate (cells.map allLines)
  ended.addLines (lines ++ [Line.rule (Rule.ofWidth page.width)])

end Page

end Letterbox.Html
