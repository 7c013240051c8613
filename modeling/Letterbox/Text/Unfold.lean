import Letterbox.Text.Blank

/-!
# Unfolding

A header's value may go on in the next line if that line starts with a space or a tab. Unfolding puts
one space for each such line break and the spaces and tabs behind it.
-/

namespace Letterbox.Text

/-- The characters that start a line which carries on the one before. -/
def isFoldBlank (letter : Char) : Bool :=
  letter == ' ' || letter == '\t'

/-- Whether a text starts with a line feed and then a line that carries on. -/
def opensFold : List Char → Bool
  | '\n' :: letter :: _ => isFoldBlank letter
  | _ => false

/-- Joins lines; `folding` holds behind a joined line break, where spaces and tabs are dropped. -/
def joinFolds (folding : Bool) : List Char → List Char
  | [] => []
  | letter :: rest =>
    if folding && isFoldBlank letter then joinFolds true rest
    else if letter == '\r' && opensFold rest then joinFolds false rest
    else if opensFold (letter :: rest) then ' ' :: joinFolds true rest
    else letter :: joinFolds false rest

/-- A value on one line, without blanks at its ends. -/
def unfold (value : List Char) : List Char :=
  trim (joinFolds false value)

/-- A string's value on one line, without blanks at its ends. -/
def unfoldString (value : String) : String :=
  String.ofList (unfold value.toList)

end Letterbox.Text
