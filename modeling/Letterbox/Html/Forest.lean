import Letterbox.Html.Node

/-!
# Forests

While a marked-up text is read, its nodes come, go and move. They stand in a forest, by number: each
knows the node that it is in and the nodes that are in it. Number zero is the document itself.
-/

namespace Letterbox.Html

/-- What a node is, apart from what it holds. -/
inductive Kind where
  | document
  | text (letters : List Char)
  | comment
  | element (name : ElementName) (attributes : List Attribute)
deriving DecidableEq, Repr, Inhabited

/-- A node of a forest. -/
structure Planted where
  kind : Kind
  parent? : Option Nat
  children : Array Nat
deriving Repr, Inhabited

/-- The nodes of a document that is being read. -/
structure Forest where
  nodes : Array Planted
deriving Repr

namespace Forest

/-- A forest of the document alone. -/
def start : Forest := ⟨#[⟨.document, none, #[]⟩]⟩

/-- The kind of a node. -/
def kindOf (forest : Forest) (number : Nat) : Kind :=
  (forest.nodes[number]?).elim .comment (·.kind)

/-- The nodes in a node. -/
def childrenOf (forest : Forest) (number : Nat) : Array Nat :=
  (forest.nodes[number]?).elim #[] (·.children)

/-- The node that a node is in. -/
def parent? (forest : Forest) (number : Nat) : Option Nat :=
  (forest.nodes[number]?).bind (·.parent?)

/-- Changes a node. -/
def alter (forest : Forest) (number : Nat) (change : Planted → Planted) : Forest :=
  ⟨forest.nodes.modify number change⟩

/-- Adds a node that is in no other one, and gives its number. -/
def plant (forest : Forest) (kind : Kind) : Forest × Nat :=
  (⟨forest.nodes.push ⟨kind, none, #[]⟩⟩, forest.nodes.size)

/-- Takes a node out of the one that it is in. -/
def detach (forest : Forest) (number : Nat) : Forest :=
  match forest.parent? number with
  | none => forest
  | some parent =>
    (forest.alter parent fun node => { node with children := node.children.filter (· != number) }).alter
      number fun node => { node with parent? := none }

/-- Puts a node that is in no other one into a node, at a place among what that holds. -/
def insertAt (forest : Forest) (parent place number : Nat) : Forest :=
  (forest.alter parent fun node =>
      { node with children := node.children.insertIdxIfInBounds place number }).alter
    number fun node => { node with parent? := some parent }

/-- Puts a node that is in no other one into a node, behind what that holds. -/
def append (forest : Forest) (parent number : Nat) : Forest :=
  (forest.alter parent fun node => { node with children := node.children.push number }).alter
    number fun node => { node with parent? := some parent }

/-- Puts a text at a place among what a node holds. If a text stands before it, they become one. -/
def insertText (forest : Forest) (parent place : Nat) (letters : List Char) : Forest :=
  let before? := if place = 0 then none else (forest.childrenOf parent)[place - 1]?
  match before?.map fun before => (before, forest.kindOf before) with
  | some (before, .text own) =>
    forest.alter before fun node => { node with kind := .text (own ++ letters) }
  | _ =>
    let (planted, number) := forest.plant (.text letters)
    planted.insertAt parent place number

/-- Puts all that a node holds into another one, behind what that holds. -/
def moveChildren (forest : Forest) (source target : Nat) : Forest :=
  let children := forest.childrenOf source
  let emptied := forest.alter source fun node => { node with children := #[] }
  children.foldl
    (fun forest number =>
      (forest.alter number fun node => { node with parent? := none }).append target number)
    emptied

/-- A place in a forest: in a node, before a number of those that it holds. -/
structure Spot where
  parent : Nat
  place : Nat

/-- The place behind all that a node holds. -/
def endOf (forest : Forest) (number : Nat) : Spot :=
  ⟨number, (forest.childrenOf number).size⟩

/-- The place right before a node, if that is in another one. -/
def before? (forest : Forest) (number : Nat) : Option Spot :=
  (forest.parent? number).map fun parent =>
    ⟨parent, ((forest.childrenOf parent).findIdx? (· == number)).getD 0⟩

/-- The node with a number, and what it holds as far as a number of levels. -/
def nodeAt (forest : Forest) : Nat → Nat → Node
  | 0, _ => .comment
  | levels + 1, number =>
    match forest.kindOf number with
    | .text letters => .text letters
    | .element name attributes =>
      .element name attributes ((forest.childrenOf number).toList.map (forest.nodeAt levels))
    | _ => .comment

/-- The nodes of the document. -/
def documentNodes (forest : Forest) : List Node :=
  (forest.childrenOf 0).toList.map (forest.nodeAt forest.nodes.size)

end Forest

end Letterbox.Html
