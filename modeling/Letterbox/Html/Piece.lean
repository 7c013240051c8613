import Letterbox.Html.Node
import Letterbox.Text.Blank
import Letterbox.Text.Width

/-!
# Pieces of a page

What the elements of a document mean for a page of plain text: paragraphs, lists, tables, marks around
words. An element without anything to show leaves no piece, with exceptions: an emphasis, an item, a
heading and the like leave an empty piece.
-/

namespace Letterbox.Html

/-- A piece of a page. -/
inductive Piece where
  | text (letters : List Char)
  | image (alternative : List Char)
  /-- A drawing with a title. -/
  | drawing (title : List Char)
  | lineBreak
  /-- A place that links lead to; it shows nothing. -/
  | anchor
  | group (pieces : List Piece)
  /-- Pieces between two equal marks. -/
  | marked (mark : String) (pieces : List Piece)
  | struck (pieces : List Piece)
  | raised (pieces : List Piece)
  | link (target : List Char) (pieces : List Piece)
  | paragraph (pieces : List Piece)
  | verbatim (pieces : List Piece)
  | division (pieces : List Piece)
  | heading (level : Nat) (pieces : List Piece)
  | quotation (pieces : List Piece)
  | bullets (items : List Piece)
  | numbered (start : Int) (items : List Piece)
  | item (pieces : List Piece)
  | glossary (pieces : List Piece)
  /-- A word that a glossary explains; it stands between asterisks. -/
  | term (pieces : List Piece)
  | description (pieces : List Piece)
  | table (rows : List Piece)
  | rows (rows : List Piece)
  | row (cells : List Piece)
  /-- A cell of a number of columns and of rows. -/
  | cell (span rows : Nat) (pieces : List Piece)
  /-- A place in a row that a cell from a row above takes. -/
  | held (span : Nat)
deriving Repr, Inhabited

namespace Piece

/-- Whether a piece is an item of a list. -/
def isItem : Piece → Bool
  | item _ => true
  | _ => false

/-- Whether a piece is a word of a glossary or its description. -/
def isEntry : Piece → Bool
  | term _ | description _ => true
  | _ => false

/-- Whether a piece shows nothing, as far as can be told without a look into its parts. -/
def isHollow : Piece → Bool
  | text letters | image letters => (Text.trim letters).isEmpty
  | drawing letters => (Text.trim letters).isEmpty
  | lineBreak | anchor => true
  | group pieces | struck pieces | raised pieces | link _ pieces | paragraph pieces | verbatim pieces
  | division pieces | heading _ pieces | quotation pieces | bullets pieces | numbered _ pieces
  | item pieces | glossary pieces | description pieces => pieces.isEmpty
  | marked _ _ | term _ | table _ | rows _ | row _ | cell _ _ _ | held _ => false

/-- Whether a piece is a row of a table. -/
def isRow : Piece → Bool
  | row _ => true
  | _ => false

/-- Whether a piece is a cell of a table. -/
def isCell : Piece → Bool
  | cell _ _ _ => true
  | _ => false

/-- Whether a piece is a place that a cell from a row above takes. -/
def isHeld : Piece → Bool
  | held _ => true
  | _ => false

/-- The number of rows of a cell. -/
def rowCount : Piece → Nat
  | cell _ count _ => count
  | _ => 1

/-- The rows in a group of rows. -/
def rowsIn : Piece → List Piece
  | rows found => found.filter isRow
  | _ => []

/-- The cells in a row. -/
def cellsIn : Piece → List Piece
  | row found => found.filter isCell
  | _ => []

/-- The number of columns that a piece takes in a table; zero if it takes the rest. -/
def span : Piece → Nat
  | cell span _ _ | held span => span
  | _ => 0

/-- The number of columns that the cells of a row take; one that takes the rest counts as one. -/
def spanned (piece : Piece) : Nat :=
  (piece.cellsIn.map fun part => max 1 part.span).foldr (· + ·) 0

/-- A row whose cells that take the rest take it from a number of columns. -/
def stretched (most : Nat) (piece : Piece) : Piece :=
  let rest := most - piece.spanned + 1
  row (piece.cellsIn.map fun part =>
    match part with
    | cell 0 count pieces => cell rest count pieces
    | part => part)

/-- A group of rows. A cell may take what the widest row leaves. -/
def ofRows (pieces : List Piece) : Piece :=
  let found := pieces.filter isRow
  rows (found.map (stretched ((found.map spanned).foldl max 1)))

end Piece

/-- A cell that goes on into further rows: how many, and where it starts. -/
structure Hanging where
  rows : Nat
  place : Nat
  span : Nat
deriving DecidableEq, Repr

namespace Hanging

/-- What hangs into the row below. -/
def below (hanging : List Hanging) : List Hanging :=
  (hanging.filter (1 < ·.rows)).map fun one => { one with rows := one.rows - 1 }

/-- The places that cells from above take in a row. -/
def pieces (hanging : List Hanging) : List Piece :=
  hanging.map fun one => .held one.span

/-- The columns that cells from above take, from a place on. -/
def after (place : Nat) (hanging : List Hanging) : Nat :=
  place + (hanging.map (·.span)).foldr (· + ·) 0

/-- The cells from above that stand before a cell at a place: each moves it on. -/
def before (place : Nat) : List Hanging → List Hanging
  | [] => []
  | one :: rest => if one.place ≤ place then one :: before (place + one.span) rest else []

/-- The cells of a row from a place on, among those that hang into it, and what hangs into the next. -/
def settle (hanging : List Hanging) (place : Nat) : List Piece → List Piece × List Hanging
  | [] => (pieces hanging, below hanging)
  | part :: rest =>
    let first := before place hanging
    let start := after place first
    let own : List Hanging :=
      if 1 < part.rowCount then [⟨part.rowCount - 1, start, part.span⟩] else []
    let (others, next) := settle (hanging.drop first.length) (start + part.span) rest
    (pieces first ++ part :: others, below first ++ own ++ next)

end Hanging

/-- The rows of a table, in which cells from above have their places. -/
def hangRows (hanging : List Hanging) : List Piece → List (List Piece)
  | [] => []
  | row :: rest =>
    let (cells, next) := Hanging.settle hanging 0 row.cellsIn
    cells :: hangRows next rest

/-- The columns behind the cells of a row, from a column on. -/
def columnEnds (place : Nat) : List Piece → List Nat
  | [] => []
  | part :: rest => (place + part.span) :: columnEnds (place + part.span) rest

/-- The cells of a row that spans columns, where only some columns are told apart. -/
def narrowCells (ends : List Nat) (place : Nat) : List Piece → List Piece
  | [] => []
  | part :: rest =>
    let stop := place + part.span
    let span := (ends.filter fun column => place < column && column ≤ stop).length
    let narrowed := match part with
      | .cell _ count pieces => .cell span count pieces
      | _ => .held span
    narrowed :: narrowCells ends stop rest

/-- The rows of a table. Columns in which no cell of any row ends are none. -/
def settleRows (found : List Piece) : List Piece :=
  let rows := hangRows [] found
  let ends := (rows.flatMap (columnEnds 0)).eraseDups
  rows.map fun cells => .row (narrowCells ends 0 cells)

/-- A number in decimal digits, behind a sign or none, below a bound. -/
def number? (letters : List Char) : Option Int :=
  let (negative, digits) := match letters with
    | '-' :: rest => (true, rest)
    | '+' :: rest => (false, rest)
    | rest => (false, rest)
  if digits.isEmpty || ! digits.all Char.isDigit then none
  else
    let size := digits.foldl (fun value digit => value * 10 + (digit.toNat - '0'.toNat)) 0
    if negative then if size ≤ UInt64.size / 2 then some (-(size : Int)) else none
    else if size < UInt64.size / 2 then some (size : Int) else none

/-- The number with which an ordered list starts. -/
def listStart (attributes : List Attribute) : Int :=
  ((attribute? attributes "start").bind number?).getD 1

/-- The number of columns or rows of a cell, as an attribute gives it. -/
def cellCount (attributes : List Attribute) (name : String) : Nat :=
  match (attribute? attributes name).bind number? with
  | some (.ofNat count) => count
  | _ => 1

/-- Whether an element leaves nothing on a page. -/
def isHidden (name : String) : Bool :=
  ["link", "meta", "hr", "script", "style", "head", "template"].contains name

/-- Whether an element is a place that links lead to. -/
def isAnchor (name : ElementName) (attributes : List Attribute) : Bool :=
  (attribute? attributes "id").isSome || (name == ⟨.page, "a"⟩ && (attribute? attributes "name").isSome)

/-- The text of the title of a drawing, if it has one. -/
def drawingTitle? (children : List Node) : Option (List Char) :=
  children.findSome? fun child =>
    match child with
    | .element ⟨.drawing, "title"⟩ _ parts =>
      some (parts.flatMap fun part =>
        match part with
        | .text letters => letters
        | _ => [])
    | _ => none

/-- The piece that an element with pieces in it leaves. -/
def Piece.ofElement? (name : String) (attributes : List Attribute) (pieces : List Piece) : Option Piece :=
  let unlessEmpty (piece : Piece) : Option Piece := if pieces.isEmpty then none else some piece
  if isHidden name then none
  else
    match name with
    | "html" | "body" => some (.group pieces)
    | "a" =>
      match attribute? attributes "href" with
      | some target => if pieces.all Piece.isHollow then none else some (.link target pieces)
      | none => some (.group pieces)
    | "em" => some (.marked "*" pieces)
    | "i" | "ins" => some (.group pieces)
    | "strong" | "b" => some (.marked "**" pieces)
    | "code" => some (.marked "`" pieces)
    | "s" | "del" => some (.struck pieces)
    | "sup" => some (.raised pieces)
    | "img" =>
      if (attribute? attributes "src").all List.isEmpty then none
      else some (.image ((attribute? attributes "alt").getD []))
    | "br" => some .lineBreak
    | "p" => unlessEmpty (.paragraph pieces)
    | "pre" => some (.verbatim pieces)
    | "div" => unlessEmpty (.division pieces)
    | "h1" => some (.heading 1 pieces)
    | "h2" => some (.heading 2 pieces)
    | "h3" => some (.heading 3 pieces)
    | "h4" => some (.heading 4 pieces)
    | "h5" => some (.heading 5 pieces)
    | "h6" => some (.heading 6 pieces)
    | "blockquote" => unlessEmpty (.quotation pieces)
    | "ul" => unlessEmpty (.bullets pieces)
    | "ol" => unlessEmpty (.numbered (listStart attributes) (pieces.filter Piece.isItem))
    | "li" => some (.item pieces)
    | "dl" => some (.glossary (pieces.filter Piece.isEntry))
    | "dt" => some (.term pieces)
    | "dd" => some (.description pieces)
    | "table" =>
      let found := pieces.flatMap Piece.rowsIn
      if found.isEmpty then none else some (.table (settleRows found))
    | "tbody" | "thead" => unlessEmpty (.ofRows pieces)
    | "tr" => some (.row pieces)
    | "td" | "th" => some (.cell (cellCount attributes "colspan") (cellCount attributes "rowspan") pieces)
    | _ => unlessEmpty (.group pieces)

/-- The piece with a place that links lead to in front: in it where it is a block, before it otherwise.
It has no width, so in the rows of a table it does not matter. -/
def Piece.withAnchor : Option Piece → Piece
  | none => .anchor
  | some (.group pieces) => .group (.anchor :: pieces)
  | some (.paragraph pieces) => .paragraph (.anchor :: pieces)
  | some (.verbatim pieces) => .verbatim (.anchor :: pieces)
  | some (.division pieces) => .division (.anchor :: pieces)
  | some (.quotation pieces) => .quotation (.anchor :: pieces)
  | some (.item pieces) => .item (.anchor :: pieces)
  | some (.glossary pieces) => .glossary (.anchor :: pieces)
  | some (.term pieces) => .term (.anchor :: pieces)
  | some (.description pieces) => .description (.anchor :: pieces)
  | some (.cell span count pieces) => .cell span count (.anchor :: pieces)
  | some (.table found) => .table found
  | some (.rows found) => .rows found
  | some (.row found) => .row found
  | some piece => .group [.anchor, piece]

mutual

/-- The piece of a page that a node leaves, if any. -/
def Node.piece? : Node → Option Piece
  | .text letters => some (.text letters)
  | .comment => none
  | .element name attributes children =>
    let piece? :=
      if name == ⟨.drawing, "svg"⟩ then (drawingTitle? children).map .drawing
      else
        let pieces := Node.piecesOf children
        if name.vocabulary == .page then Piece.ofElement? name.name attributes pieces
        else if pieces.isEmpty then none
        else some (.group pieces)
    if isAnchor name attributes then some (Piece.withAnchor piece?) else piece?

/-- The pieces that nodes leave. -/
def Node.piecesOf : List Node → List Piece
  | [] => []
  | node :: rest =>
    match node.piece? with
    | some piece => piece :: Node.piecesOf rest
    | none => Node.piecesOf rest

end

end Letterbox.Html
