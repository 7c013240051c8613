import Letterbox.Html.Token

/-!
# Nodes

The tree of elements and texts that a marked-up text describes. Drawings and formulas in it have
vocabularies of their own.
-/

namespace Letterbox.Html

/-- The vocabulary that the name of an element is from. -/
inductive Vocabulary where
  | page
  | drawing
  | formula
deriving DecidableEq, Repr

/-- The name of an element. -/
structure ElementName where
  vocabulary : Vocabulary
  name : String
deriving DecidableEq, Repr

/-- A text, a comment, or an element with what it holds. -/
inductive Node where
  | text (letters : List Char)
  | comment
  | element (name : ElementName) (attributes : List Attribute) (children : List Node)
deriving Repr, Inhabited

/-- The value of an attribute. -/
def attribute? (attributes : List Attribute) (name : String) : Option (List Char) :=
  (attributes.find? (·.name == name)).map (·.value)

end Letterbox.Html
