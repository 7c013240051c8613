import Letterbox.Html.Token

/-!
# Text that takes markup as it is

The content of some elements is text whatever it looks like. It ends at the end tag of the element. In
a script, that tag does not count while the script holds a comment with another script in it.
-/

namespace Letterbox.Html

/-- A kind of text that takes markup as it is. -/
inductive RawText where
  | bare
  /-- References to characters count. -/
  | resolved
  | script
  /-- The text never ends. -/
  | endless
deriving DecidableEq, Repr

/-- Whether a text starts with a tag, given with its angle bracket and without its end. -/
def startsTag (tag text : List Char) : Bool :=
  (text.take tag.length).map Char.toLower == tag && ((text.drop tag.length).head?.any endsName)

/-- The text up to the end tag of an element, and the rest from that tag on. -/
def cutRaw (name : String) : List Char → List Char × List Char
  | [] => ([], [])
  | letter :: rest =>
    if letter == '<' && startsTag ('<' :: '/' :: name.toList) (letter :: rest) then
      ([], letter :: rest)
    else
      let (text, after) := cutRaw name rest
      (letter :: text, after)

/-- Where a place in a script is. -/
inductive ScriptPart where
  | code
  | comment
  /-- In a comment, behind the opening tag of another script. -/
  | nested
deriving DecidableEq, Repr

/-- The part of a script behind an angle bracket that opens something. -/
def ScriptPart.behindBracket (part : ScriptPart) (text : List Char) : ScriptPart :=
  match part with
  | code => if text.take 4 == "<!--".toList then comment else code
  | comment => if startsTag "<script".toList text then nested else comment
  | nested => if startsTag "</script".toList text then comment else nested

/-- The text from the end tag of a script on. A number of hyphens stands right before the text. -/
def afterScript (part : ScriptPart) (hyphens : Nat) : List Char → List Char
  | [] => []
  | letter :: rest =>
    if letter == '<' then
      if part != .nested && startsTag "</script".toList (letter :: rest) then letter :: rest
      else afterScript (part.behindBracket (letter :: rest)) 0 rest
    else if letter == '-' then afterScript part (hyphens + 1) rest
    else if letter == '>' && 2 ≤ hyphens then afterScript .code 0 rest
    else afterScript part 0 rest

/-- The content of an element, and the rest from its end tag on. What a script holds does not matter. -/
def RawText.cut (raw : RawText) (name : String) (text : List Char) : List Char × List Char :=
  match raw with
  | bare =>
    let (letters, rest) := cutRaw name text
    (withoutNul letters, rest)
  | resolved =>
    let (letters, rest) := cutRaw name text
    (withoutNul (resolveReferences false letters), rest)
  | script => ([], afterScript .code 0 text)
  | endless => (withoutNul text, [])

end Letterbox.Html
