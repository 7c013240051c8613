import Letterbox.Html.Draft

/-!
# Formatting

An element that changes the look of the text in it need not end where the elements around it end: its
formatting goes on behind them. `Draft.resume` begins elements anew for the formatting that is still in
force, and `Draft.adopt` ends an element of which others are only half inside.
-/

namespace Letterbox.Html

namespace Formatting

/-- Whether formatting belongs to an element. -/
def belongsTo (number : Nat) : Formatting → Bool
  | mark => false
  | element own _ => own == number

/-- Whether formatting has a name. -/
def isNamed (name : String) : Formatting → Bool
  | mark => false
  | element _ tag => tag.name == name

/-- Whether formatting has the name and the attributes of a tag, in whatever order. -/
def isLike (tag : Tag) : Formatting → Bool
  | mark => false
  | element _ own =>
    own.name == tag.name && own.attributes.length == tag.attributes.length
      && own.attributes.all tag.attributes.contains

end Formatting

namespace Draft

/-- The formatting behind the last mark, latest first. -/
def recentFormatting (draft : Draft) : List Formatting :=
  draft.formatting.takeWhile (· != .mark)

/-- Sets a mark. -/
def seclude (draft : Draft) : Draft :=
  { draft with formatting := .mark :: draft.formatting }

/-- Forgets the formatting behind the last mark, and the mark. -/
def unseclude (draft : Draft) : Draft :=
  { draft with formatting := (draft.formatting.dropWhile (· != .mark)).drop 1 }

/-- Forgets the formatting of an element. -/
def forget (draft : Draft) (number : Nat) : Draft :=
  { draft with formatting := draft.formatting.filter (! ·.belongsTo number) }

/-- Whether an element has formatting in force. -/
def isInForce (draft : Draft) (number : Nat) : Bool :=
  draft.formatting.any (·.belongsTo number)

/-- Begins an element and puts its formatting in force. -/
def enterInForce (draft : Draft) (tag : Tag) : Draft :=
  let entered := draft.enter tag
  match entered.stack.head? with
  | some number => { entered with formatting := .element number tag :: entered.formatting }
  | none => entered

/-- Begins an element that formats. Of formatting that is alike, only the latest three count. -/
def enterFormatting (draft : Draft) (tag : Tag) : Draft :=
  let alike := draft.recentFormatting.filter (·.isLike tag)
  match alike.drop 2 |>.getLast? with
  | some (.element number _) => (draft.forget number).enterInForce tag
  | _ => draft.enterInForce tag

/-- Begins elements for formatting, in order, and puts them in its place. -/
def enterAll (draft : Draft) : List Formatting → Draft
  | [] => draft
  | .mark :: rest => draft.seclude.enterAll rest
  | .element _ tag :: rest => (draft.enterInForce tag).enterAll rest

/-- Begins elements anew for the formatting that is in force but whose elements have ended. -/
def resume (draft : Draft) : Draft :=
  let ended := draft.formatting.takeWhile fun formatting =>
    match formatting with
    | .mark => false
    | .element number _ => ! draft.stack.contains number
  { draft with formatting := draft.formatting.drop ended.length }.enterAll ended.reverse

/-- Adds text in which the formatting in force goes on. -/
def addFormatted (draft : Draft) (letters : List Char) : Draft :=
  draft.resume.addText letters

/-- A chain of elements on its way from one place of a document to another: a block, and elements around
it, each in the next. -/
structure Chain where
  draft : Draft
  /-- The elements of the chain but for the block, outermost first. -/
  elements : List Nat
  /-- The element at the outer end of the chain. -/
  outermost : Nat
  /-- The element around the block. -/
  innermost? : Option Nat

/-- Puts the chain into an element that is between it and the end of its way: a new one, if the element
formats; otherwise the element is left out. A fourth element loses its formatting as well. -/
def Chain.reach (chain : Chain) (count number : Nat) : Chain :=
  let draft := chain.draft
  let tag? := draft.formatting.findSome? fun formatting =>
    match formatting with
    | .element own tag => if own == number then some tag else none
    | .mark => none
  match tag? with
  | none => chain
  | some tag =>
    if 3 < count then { chain with draft := draft.forget number }
    else
      let (forest, new) := draft.forest.plant (.element (.ofPage tag.name) tag.attributes)
      let renewed := draft.formatting.map fun formatting =>
        if formatting.belongsTo number then .element new tag else formatting
      { draft := { draft with
          forest := (forest.detach chain.outermost).append new chain.outermost
          formatting := renewed }
        elements := new :: chain.elements
        outermost := new
        innermost? := chain.innermost?.or (some new) }

/-- Puts new formatting in the place of that of an element, or right behind that of another one. -/
def replaceFormatting (formatting : List Formatting) (old : Nat) (behind? : Option Nat)
    (new : Formatting) : List Formatting :=
  match behind? with
  | none => formatting.map fun own => if own.belongsTo old then new else own
  | some number =>
    (formatting.flatMap fun own => if own.belongsTo number then [new, own] else [own]).filter
      (! ·.belongsTo old)

/-- Ends an element inside which a block is still open: the element ends before the block, and begins
anew in it. The stack is given in parts: what is open in the block, the block, what is open between it
and the element, the element, and what is around it. -/
def splitAround (draft : Draft) (inner : List Nat) (block : Nat) (between : List Nat)
    (element : Nat) (tag : Tag) (outer : List Nat) : Draft :=
  let reached := (between.zipIdx 1).foldl
    (fun chain (number, count) => chain.reach count number)
    (⟨draft, [], block, none⟩ : Chain)
  let loose := { reached.draft with forest := reached.draft.forest.detach reached.outermost }
  let spot := loose.spotIn (outer.head?.getD 0)
  let placed := loose.forest.insertAt spot.parent spot.place reached.outermost
  let (planted, new) := placed.plant (.element (.ofPage tag.name) tag.attributes)
  { loose with
    forest := (planted.moveChildren block new).append block new
    stack := inner ++ new :: block :: reached.elements.reverse ++ outer
    formatting :=
      replaceFormatting loose.formatting element reached.innermost? (.element new tag) }

/-- Ends an element by an end tag that no rule of its own names: the innermost element with the name,
unless an element stands before it that no end tag reaches over. -/
def closeOrdinary (draft : Draft) (name : String) : Draft :=
  match draft.stack.find? (draft.isOneOf (name :: specialElements)) with
  | some number =>
    if draft.isOneOf [name] number then
      { draft with stack := (draft.stack.dropWhile (· != number)).drop 1 }
    else draft
  | none => draft

/-- Ends elements that format, once for each block that is open in one of them. -/
def adoptMany (draft : Draft) (name : String) : Nat → Draft
  | 0 => draft
  | rounds + 1 =>
    match draft.recentFormatting.find? (·.isNamed name) with
    | some (.element number tag) =>
      if ! draft.stack.contains number then draft.forget number
      else if ! draft.finds (· == number) ElementName.endsSearch then draft
      else
        let inside := draft.stack.takeWhile (· != number)
        let outer := draft.stack.drop (inside.length + 1)
        let between := (inside.reverse.takeWhile (! draft.isOneOf specialElements ·)).reverse
        match (inside.take (inside.length - between.length)).reverse with
        | [] => { draft with stack := outer }.forget number
        | block :: inner =>
          (draft.splitAround inner.reverse block between number tag outer).adoptMany name rounds
    | _ => draft.closeOrdinary name

/-- Ends an element that formats. -/
def adopt (draft : Draft) (name : String) : Draft :=
  match draft.stack with
  | top :: _ =>
    if draft.isOneOf [name] top && ! draft.isInForce top then draft.leave
    else draft.adoptMany name 8
  | [] => draft

end Draft

end Letterbox.Html
