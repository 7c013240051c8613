import Letterbox.Html.Element
import Letterbox.Html.Forest
import Letterbox.Html.RawText

/-!
# Drafts

A draft is a document as far as it has been read: its nodes, the elements that are still open, and where
the next token stands. The open elements stand in one another, and the innermost one takes what comes
next. Text that stands between the cells of a table goes before the table instead.
-/

namespace Letterbox.Html

/-- Where the next token stands. -/
inductive Place where
  | beforeDoctype
  | beforeRoot
  | beforeHead
  | inHead
  | inHeadFallback
  | afterHead
  | inBody
  | inRawText
  | inTable
  | inTableText
  | inCaption
  | inColumns
  | inRows
  | inRow
  | inCell
  | inTemplate
  | afterBody
  | inFrames
  | afterFrames
  | afterBodyEnd
  | afterFramesEnd
deriving DecidableEq, Repr

/-- Formatting that goes on behind elements that end too early. A mark sets apart what an element
secludes. -/
inductive Formatting where
  | mark
  | element (number : Nat) (tag : Tag)
deriving DecidableEq, Repr

/-- A document that is being read. -/
structure Draft where
  forest : Forest
  place : Place
  /-- Where a token stands behind the text under way. -/
  placeBehind : Place
  /-- Where the tokens in the open templates stand, innermost first. -/
  templatePlaces : List Place
  /-- The open elements, innermost first. -/
  stack : List Nat
  /-- The formatting in force, latest first. -/
  formatting : List Formatting
  head? : Option Nat
  /-- The form that is open. -/
  form? : Option Nat
  /-- Frames may still take the place of the body. -/
  takesFrames : Bool
  /-- A paragraph may hold a table. -/
  lenient : Bool
  /-- What cannot stand in a table goes before it. -/
  fostering : Bool
  /-- A line feed that comes next does not count. -/
  skipsLineFeed : Bool
  /-- The text between the parts of a table. -/
  tableText : List Char
  /-- The text that comes next takes markup as it is. -/
  raw? : Option RawText

namespace Draft

/-- A document of which nothing has been read. -/
def start : Draft :=
  { forest := .start
    place := .beforeDoctype
    placeBehind := .inBody
    templatePlaces := []
    stack := []
    formatting := []
    head? := none
    form? := none
    takesFrames := true
    lenient := false
    fostering := false
    skipsLineFeed := false
    tableText := []
    raw? := none }

/-- The draft with the next token at a place. -/
def goTo (draft : Draft) (place : Place) : Draft :=
  { draft with place := place }

/-- The name of a node, if it is an element. -/
def nameOf (draft : Draft) (number : Nat) : ElementName :=
  match draft.forest.kindOf number with
  | .element name _ => name
  | _ => .ofPage ""

/-- The attributes of a node, if it is an element. -/
def attributesOf (draft : Draft) (number : Nat) : List Attribute :=
  match draft.forest.kindOf number with
  | .element _ attributes => attributes
  | _ => []

/-- Whether an element has a name from a list, in the vocabulary of pages. -/
def isOneOf (draft : Draft) (names : List String) (number : Nat) : Bool :=
  (draft.nameOf number).isOneOf names

/-- Whether the innermost open element has a name from a list. -/
def topIsOneOf (draft : Draft) (names : List String) : Bool :=
  draft.stack.head?.any (draft.isOneOf names)

/-- Whether an element with a name from a list is open. -/
def hasOpen (draft : Draft) (names : List String) : Bool :=
  draft.stack.any (draft.isOneOf names)

/-- The place before the innermost table, or the end of the innermost template if that is further in. -/
def spotBeforeTable (draft : Draft) : List Nat → Forest.Spot
  | [] => draft.forest.endOf 0
  | [outermost] => draft.forest.endOf outermost
  | number :: outer :: rest =>
    if draft.isOneOf ["template"] number then draft.forest.endOf number
    else if draft.isOneOf ["table"] number then
      (draft.forest.before? number).getD (draft.forest.endOf outer)
    else draft.spotBeforeTable (outer :: rest)

/-- The place for what is meant for the end of a node. -/
def spotIn (draft : Draft) (number : Nat) : Forest.Spot :=
  if draft.fostering && draft.isOneOf tableFrames number then draft.spotBeforeTable draft.stack
  else draft.forest.endOf number

/-- The place for what comes next. -/
def spot (draft : Draft) : Forest.Spot :=
  draft.spotIn (draft.stack.head?.getD 0)

/-- Adds text. -/
def addText (draft : Draft) (letters : List Char) : Draft :=
  if letters.isEmpty then draft
  else
    let spot := draft.spot
    { draft with forest := draft.forest.insertText spot.parent spot.place letters }

/-- Puts a new node at the place for what comes next, and gives its number. -/
def plant (draft : Draft) (kind : Kind) : Draft × Nat :=
  let spot := draft.spot
  let (planted, number) := draft.forest.plant kind
  ({ draft with forest := planted.insertAt spot.parent spot.place number }, number)

/-- Adds a comment. -/
def addComment (draft : Draft) : Draft :=
  (draft.plant .comment).1

/-- Adds an element that holds nothing. -/
def addElement (draft : Draft) (name : ElementName) (attributes : List Attribute) : Draft :=
  (draft.plant (.element name attributes)).1

/-- Begins an element. -/
def enterElement (draft : Draft) (name : ElementName) (attributes : List Attribute) : Draft :=
  let (planted, number) := draft.plant (.element name attributes)
  { planted with stack := number :: planted.stack }

/-- Adds the element of a tag, which holds nothing. -/
def addEmpty (draft : Draft) (tag : Tag) : Draft :=
  draft.addElement (.ofPage tag.name) tag.attributes

/-- Begins the element of a tag. -/
def enter (draft : Draft) (tag : Tag) : Draft :=
  draft.enterElement (.ofPage tag.name) tag.attributes

/-- Begins an element that no tag names. -/
def enterImplied (draft : Draft) (name : String) : Draft :=
  draft.enterElement (.ofPage name) []

/-- Begins an element whose content is text whatever it looks like. -/
def enterRaw (draft : Draft) (raw : RawText) (tag : Tag) : Draft :=
  { draft.enter tag with placeBehind := draft.place, place := .inRawText, raw? := some raw }

/-- Ends the innermost open element. -/
def leave (draft : Draft) : Draft :=
  { draft with stack := draft.stack.drop 1 }

/-- Ends the innermost open elements up to one of which something holds, which stays open. -/
def leaveUntil (draft : Draft) (stops : ElementName → Bool) : Draft :=
  { draft with stack := draft.stack.dropWhile fun number => ! stops (draft.nameOf number) }

/-- Ends the innermost open elements up to one with a name from a list, which stays open. -/
def leaveUpTo (draft : Draft) (names : List String) : Draft :=
  draft.leaveUntil (·.isOneOf names)

/-- Ends the innermost open elements up to and with one with a name from a list. -/
def leaveThrough (draft : Draft) (names : List String) : Draft :=
  (draft.leaveUpTo names).leave

/-- Ends the innermost open elements whose names are in a list. -/
def leaveAll (draft : Draft) (names : List String) : Draft :=
  draft.leaveUntil (! ·.isOneOf names)

/-- Ends the innermost open elements that end by themselves, but for one name. -/
def leaveImplied (draft : Draft) (except : String) : Draft :=
  draft.leaveAll (impliedEnds.filter (· != except))

/-- Ends one open element; those in it stay open. -/
def leaveOnly (draft : Draft) (number : Nat) : Draft :=
  { draft with stack := draft.stack.filter (· != number) }

/-- Whether an open element is found before one that ends the search. -/
def finds (draft : Draft) (wanted : Nat → Bool) (ends : ElementName → Bool) : Bool :=
  match draft.stack.find? fun number => wanted number || ends (draft.nameOf number) with
  | some number => wanted number
  | none => false

/-- Whether an element with a name from a list is open, with none inside that ends the search. -/
def holds (draft : Draft) (names : List String) (ends : ElementName → Bool) : Bool :=
  draft.finds (draft.isOneOf names) ends

/-- Whether an element with a name is open, with none inside that ends a search. -/
def holdsOpen (draft : Draft) (name : String) : Bool :=
  draft.holds [name] ElementName.endsSearch

/-- Whether a part of the innermost table with a name from a list is open. -/
def holdsTablePart (draft : Draft) (names : List String) : Bool :=
  draft.holds names ElementName.endsTableSearch

/-- Ends an element that is open, with what is open in it. -/
def close (draft : Draft) (name : String) (ends : ElementName → Bool) : Draft :=
  if draft.holds [name] ends then (draft.leaveImplied name).leaveThrough [name] else draft

/-- Ends the paragraph that is open. -/
def closeParagraph (draft : Draft) : Draft :=
  draft.close "p" ElementName.endsParagraphSearch

/-- The place that the open elements make of what comes next. -/
def placeOfStack (draft : Draft) : List Nat → Place
  | [] => .inBody
  | number :: rest =>
    let name := draft.nameOf number
    if name.vocabulary != .page then draft.placeOfStack rest
    else
      match name.name with
      | "td" | "th" => if rest.isEmpty then .inBody else .inCell
      | "tr" => .inRow
      | "tbody" | "thead" | "tfoot" => .inRows
      | "caption" => .inCaption
      | "colgroup" => .inColumns
      | "table" => .inTable
      | "template" => draft.templatePlaces.head?.getD .inTemplate
      | "head" => if rest.isEmpty then .inBody else .inHead
      | "body" => .inBody
      | "frameset" => .inFrames
      | "html" => if draft.head?.isNone then .beforeHead else .afterHead
      | _ => draft.placeOfStack rest

/-- The draft with the next token where the open elements say. -/
def goWhereOpen (draft : Draft) : Draft :=
  draft.goTo (draft.placeOfStack draft.stack)

/-- The names of the innermost open element. -/
def top? (draft : Draft) : Option ElementName :=
  draft.stack.head?.map draft.nameOf

/-- Whether the next token stands in a drawing or a formula. -/
def isInDrawing (draft : Draft) : Bool :=
  draft.top?.any (·.vocabulary != .page)

end Draft

end Letterbox.Html
