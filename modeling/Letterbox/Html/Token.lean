import Letterbox.Html.Doctype
import Letterbox.Html.Reference

/-!
# Tags and texts

A marked-up text is a row of tags, of comments and of the texts between them. `nextToken` cuts off the
first one. What looks like no markup is text, so every text can be cut up.
-/

namespace Letterbox.Html

/-- An attribute of a tag. -/
structure Attribute where
  name : String
  value : List Char
deriving DecidableEq, Repr

/-- An opening tag. -/
structure Tag where
  name : String
  attributes : List Attribute
  /-- A slash stands before the end of the tag. -/
  selfClosing : Bool
deriving DecidableEq, Repr

/-- A piece of marked-up text. -/
inductive Token where
  | text (letters : List Char)
  /-- The character with the number zero, which has no place in a text. -/
  | nul
  | opening (tag : Tag)
  | closing (name : String)
  | comment
  | doctype (doctype : Doctype)
deriving DecidableEq, Repr

/-- Whether a character ends a name in a tag. -/
def endsName (letter : Char) : Bool :=
  isMarkupBlank letter || letter == '/' || letter == '>'

/-- A text with a replacement for the character with the number zero. -/
def withoutNul (letters : List Char) : List Char :=
  letters.map fun letter => if letter == '\x00' then '\ufffd' else letter

/-- The value behind an equals sign, and the rest. -/
def cutAttributeValue (text : List Char) : List Char × List Char :=
  match text.dropWhile isMarkupBlank with
  | '"' :: rest => cutAt '"' rest
  | '\'' :: rest => cutAt '\'' rest
  | rest =>
    let ends (letter : Char) := isMarkupBlank letter || letter == '>'
    (rest.takeWhile (! ends ·), rest.dropWhile (! ends ·))

/-- An attribute before others, of which none has its name any more: the first one counts. -/
def Attribute.consTo (first : Attribute) (others : List Attribute) : List Attribute :=
  first :: others.filter (·.name != first.name)

/-- The attributes up to the end of a tag, whether a slash stands before the end, and what follows the
tag; none if the tag does not end. -/
def cutAttributes (fuel : Nat) (text : List Char) : Option (List Attribute × Bool × List Char) :=
  match fuel with
  | 0 => none
  | fuel + 1 =>
    match text.dropWhile isMarkupBlank with
    | [] => none
    | '>' :: rest => some ([], false, rest)
    | '/' :: '>' :: rest => some ([], true, rest)
    | '/' :: rest => cutAttributes fuel rest
    | first :: rest =>
      let ends (letter : Char) := endsName letter || letter == '='
      let name := first :: rest.takeWhile (! ends ·)
      let after := (rest.dropWhile (! ends ·)).dropWhile isMarkupBlank
      let (value, behind) :=
        match after with
        | '=' :: after => cutAttributeValue after
        | _ => ([], after)
      (cutAttributes fuel behind).map fun (attributes, selfClosing, rest) =>
        let own : Attribute :=
          ⟨lowerName (withoutNul name), withoutNul (resolveReferences true value)⟩
        (own.consTo attributes, selfClosing, rest)

/-- The tag at the start of a text, from its name on, and what follows it. -/
def cutTag (text : List Char) : Option (Tag × List Char) :=
  let name := text.takeWhile (! endsName ·)
  (cutAttributes (text.length + 1) (text.drop name.length)).map fun (attributes, selfClosing, rest) =>
    (⟨lowerName (withoutNul name), attributes, selfClosing⟩, rest)

/-- The text behind the end of a comment. -/
def skipComment : List Char → List Char
  | [] => []
  | letter :: rest =>
    match letter :: rest with
    | '-' :: '-' :: '>' :: after => after
    | '-' :: '-' :: '!' :: '>' :: after => after
    | _ => skipComment rest

/-- The text behind a comment, from behind its two opening hyphens on. -/
def skipCommentBody : List Char → List Char
  | '>' :: rest => rest
  | '-' :: '>' :: rest => rest
  | text => skipComment text

/-- The text up to two closing brackets and an angle bracket, and what is behind them. -/
def cutQuotation : List Char → List Char × List Char
  | [] => ([], [])
  | letter :: rest =>
    match letter :: rest with
    | ']' :: ']' :: '>' :: after => ([], after)
    | _ =>
      let (text, after) := cutQuotation rest
      (letter :: text, after)

/-- Whether markup starts at an angle bracket with what follows it. -/
def opensMarkup : List Char → Bool
  | '/' :: _ :: _ => true
  | ['/'] => false
  | letter :: _ => letter.isAlpha || letter == '!' || letter == '?'
  | [] => false

/-- The text up to the next markup, and the rest. -/
def cutText : List Char → List Char × List Char
  | [] => ([], [])
  | letter :: rest =>
    if letter == '\x00' || (letter == '<' && opensMarkup rest) then ([], letter :: rest)
    else
      let (text, after) := cutText rest
      (letter :: text, after)

/-- The token of a declaration, from behind its exclamation mark on, and the rest. -/
def cutDeclaration (inDrawing : Bool) (text : List Char) : Option Token × List Char :=
  if lowerName (text.take 7) == "doctype" then
    let (doctype, rest) := Doctype.cut (text.drop 7)
    (some (.doctype doctype), rest)
  else if inDrawing && text.take 7 == "[CDATA[".toList then
    let (letters, rest) := cutQuotation (text.drop 7)
    (if letters.isEmpty then none else some (.text (withoutNul letters)), rest)
  else (some .comment, (cutAt '>' text).2)

/-- The first token of a text, if it is one, and the rest. In a drawing, text may stand between brackets
that take it as it is. -/
def nextToken (inDrawing : Bool) : List Char → Option Token × List Char
  | '<' :: '!' :: '-' :: '-' :: rest => (some .comment, skipCommentBody rest)
  | '<' :: '!' :: rest => cutDeclaration inDrawing rest
  | '<' :: '?' :: rest => (some .comment, (cutAt '>' rest).2)
  | '\x00' :: rest => (some .nul, rest)
  | '<' :: '/' :: letter :: rest =>
    if letter.isAlpha then
      match cutTag (letter :: rest) with
      | some (tag, after) => (some (.closing tag.name), after)
      | none => (none, [])
    else if letter == '>' then (none, rest)
    else (some .comment, (cutAt '>' (letter :: rest)).2)
  | text =>
    match cutText text with
    | ([], rest) =>
      match cutTag (rest.drop 1) with
      | some (tag, after) => (some (.opening tag), after)
      | none => (none, [])
    | (letters, rest) => (some (.text (resolveReferences false letters)), rest)

/-- Line breaks as single line feeds. -/
def plainLineBreaks : List Char → List Char
  | [] => []
  | letter :: rest =>
    if letter == '\r' then
      if rest.head? == some '\n' then plainLineBreaks rest else '\n' :: plainLineBreaks rest
    else letter :: plainLineBreaks rest

end Letterbox.Html
