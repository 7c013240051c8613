/-!
# Split texts

A text cut at every occurrence of a character. There is always one piece more than there are cuts.
-/

namespace Letterbox.Text

/-- The pieces of a text between the occurrences of a separator. -/
def split (separator : Char) : List Char → List (List Char)
  | [] => [[]]
  | letter :: rest =>
    if letter = separator then [] :: split separator rest
    else
      match split separator rest with
      | [] => [[letter]]
      | piece :: pieces => (letter :: piece) :: pieces

/-- The pieces of a string between the occurrences of a separator. -/
def splitString (separator : Char) (text : String) : List String :=
  (split separator text.toList).map String.ofList

end Letterbox.Text
