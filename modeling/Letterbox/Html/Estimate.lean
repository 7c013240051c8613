import Letterbox.Html.Piece

/-!
# Estimates of width

Before a table is laid out, the width of each cell is estimated: the columns that its text takes on one
line, and the columns below which it cannot be laid out well. The width of a column follows from the
estimates alone.
-/

namespace Letterbox.Html

/-- How many columns a piece takes on one line, and how many at the least. -/
structure Estimate where
  size : Nat
  least : Nat
deriving DecidableEq, Repr, Inhabited

namespace Estimate

/-- Of two pieces, one behind the other. -/
def both (first second : Estimate) : Estimate :=
  ⟨first.size + second.size, max first.least second.least⟩

/-- Of a piece behind an indent. -/
def indented (columns : Nat) (estimate : Estimate) : Estimate :=
  ⟨columns + estimate.size, columns + estimate.least⟩

/-- Of a column with cells of two estimates. -/
def widest (first second : Estimate) : Estimate :=
  ⟨max first.size second.size, max first.least second.least⟩

/-- Of one of a number of columns under a cell. -/
def share (columns : Nat) (estimate : Estimate) : Estimate :=
  ⟨estimate.size / columns, estimate.least / columns⟩

/-- Of a text of a size: up to three columns have to stay together. -/
def ofSize (size : Nat) : Estimate :=
  ⟨size, min size 3⟩

/-- Of a piece between two marks of a size. -/
def between (size : Nat) (estimate : Estimate) : Estimate :=
  ((ofSize size).both estimate).both (ofSize size)

end Estimate

/-- Blanks that are joined to one space; the no-break space is none. -/
def isSoftBlank (letter : Char) : Bool :=
  Text.isBlank letter && letter != '\u00a0'

/-- The columns of a text, where a row of blanks counts as one. -/
def joinedWidth (afterBlank : Bool) : List Char → Nat
  | [] => 0
  | letter :: rest =>
    if isSoftBlank letter then joinedWidth true rest
    else Text.columns letter + (if afterBlank then 1 else 0) + joinedWidth false rest

/-- The columns of a text on one line; blanks at its start count, blanks at its end do not. -/
def textWidth (letters : List Char) : Nat :=
  match letters.dropWhile isSoftBlank with
  | [] => 0
  | rest => joinedWidth false rest + if letters.head?.any isSoftBlank then 1 else 0

/-- The label of an item of an ordered list. -/
def itemLabel (number : Int) : List Char :=
  (toString number).toList ++ ['.', ' ']

/-- The width of the labels of an ordered list. -/
def labelWidth (start : Int) (count : Nat) : Nat :=
  max (itemLabel start).length (itemLabel (start + count - 1)).length

/-- Changes some elements of a list from a place on. -/
def changeFrom {α : Type} (change : α → α) (place count : Nat) (items : List α) : List α :=
  items.take place ++ ((items.drop place).take count).map change ++ items.drop (place + count)

/-- Adds the estimate of a row to those of the columns of a table. -/
def Estimate.addRow (columns : List Estimate) (cells : List (Nat × Estimate)) : List Estimate :=
  (cells.foldl
    (fun (state : Nat × List Estimate) cell =>
      (state.1 + cell.1,
        changeFrom
          (fun own => ⟨own.size + cell.2.size / cell.1, max (own.least / cell.1) cell.2.least⟩)
          state.1 cell.1 state.2))
    (0, columns)).2

/-- The estimate of a table within a cell: its columns as wide as all their cells together. -/
def Estimate.ofRows (rows : List (List (Nat × Estimate))) : Estimate :=
  let count := (rows.map fun row => (row.map (max 1 ·.1)).foldr (· + ·) 0).foldl max 0
  let columns := rows.foldl addRow (List.replicate count default)
  ⟨(columns.map (·.size)).foldr (· + ·) 0 + (count - 1),
    (columns.map (·.least)).foldr (· + ·) 0 + (count - 1)⟩

mutual

/-- The estimate of a piece. -/
def Piece.estimate : Piece → Estimate
  | .text letters => .ofSize (textWidth letters)
  | .drawing letters => .ofSize (textWidth letters)
  | .image letters => .ofSize (textWidth letters + 2)
  | .lineBreak => ⟨1, 1⟩
  | .anchor => ⟨0, 0⟩
  | .group pieces | .struck pieces | .raised pieces | .paragraph pieces | .verbatim pieces
  | .division pieces | .item pieces | .glossary pieces => estimateAll pieces
  | .marked mark pieces => (estimateAll pieces).between mark.length
  | .term pieces => (estimateAll pieces).between 1
  | .link _ pieces => (estimateAll pieces).both ⟨5, 5⟩
  | .heading level pieces => (estimateAll pieces).indented (level + 1)
  | .quotation pieces | .bullets pieces | .description pieces => (estimateAll pieces).indented 2
  | .numbered start items => (estimateAll items).indented (labelWidth start items.length)
  | .table found => .ofRows (estimatesOfRows found)
  | .rows _ | .row _ | .cell _ _ _ | .held _ => ⟨0, 0⟩

/-- The estimate of pieces one behind the other. -/
def estimateAll : List Piece → Estimate
  | [] => ⟨0, 0⟩
  | piece :: rest => piece.estimate.both (estimateAll rest)

/-- The spans and estimates of the cells of rows. -/
def estimatesOfRows : List Piece → List (List (Nat × Estimate))
  | [] => []
  | .row cells :: rest => estimatesOfCells cells :: estimatesOfRows rest
  | _ :: rest => estimatesOfRows rest

/-- The spans and estimates of cells. -/
def estimatesOfCells : List Piece → List (Nat × Estimate)
  | [] => []
  | .cell span _ pieces :: rest => (span, estimateAll pieces) :: estimatesOfCells rest
  | .held span :: rest => (span, ⟨0, 0⟩) :: estimatesOfCells rest
  | _ :: rest => estimatesOfCells rest

end

/-- The estimates of the columns of a table: the widest cell of each decides. -/
def columnEstimates (rows : List (List (Nat × Estimate))) : List Estimate :=
  let count := (rows.map fun row => (row.map (max 1 ·.1)).foldr (· + ·) 0).foldl max 0
  rows.foldl
    (fun columns row =>
      (row.foldl
        (fun (state : Nat × List Estimate) cell =>
          (state.1 + cell.1,
            changeFrom (Estimate.widest (cell.2.share cell.1)) state.1 cell.1 state.2))
        (0, columns)).2)
    (List.replicate count default)

/-- The place of the column from which a table that is too wide takes a column. -/
def amplest (columns : List (Estimate × Nat)) : Nat :=
  let spare (column : Estimate × Nat) : Nat := column.2 - column.1.least
  (columns.zipIdx.foldl
    (fun (best : Option ((Estimate × Nat) × Nat)) column =>
      match best with
      | none => some column
      | some other =>
        if spare other.1 < spare column.1
            || (spare other.1 == spare column.1 && other.1.2 < column.1.2) then some column
        else best)
    none).elim 0 (·.2)

/-- Takes a number of columns from a table that is too wide by them. -/
def narrow (columns : List (Estimate × Nat)) : Nat → List (Estimate × Nat)
  | 0 => columns
  | excess + 1 =>
    narrow (columns.modify (amplest columns) fun column => (column.1, column.2 - 1)) excess

/-- The widths of the columns of a table on a page of a width; none if the cells of each row have to be
written below each other. -/
def columnWidths? (width : Nat) (columns : List Estimate) : Option (List Nat) :=
  let total := (columns.map (·.size)).foldr (· + ·) 0
  let least := (columns.map (·.least)).foldr (· + ·) 0 + (columns.length - 1)
  if width < least || width = 0 then none
  else
    let fair := columns.map fun column =>
      (column,
        if column.size = 0 then 0
        else min column.size (max (column.size * width / total) column.least))
    let taken := (fair.map (·.2)).foldr (· + ·) 0 + (columns.length - 1)
    some ((narrow fair (taken - width)).map (·.2))

end Letterbox.Html
