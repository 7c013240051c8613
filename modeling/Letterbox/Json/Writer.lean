import Letterbox.Json

/-!
# Written JSON

The compact text of a value has no blanks; the indented text puts every item and member on a line of
its own. In both a string escapes quotes, backslashes and control characters, and nothing else.
-/

namespace Letterbox.Json

/-- A hexadecimal digit. -/
def hexDigit (value : Nat) : Char :=
  if value < 10 then Char.ofNat ('0'.toNat + value) else Char.ofNat ('a'.toNat + (value - 10))

/-- A character inside a string literal. -/
def escaped (letter : Char) : List Char :=
  if letter == '"' then ['\\', '"']
  else if letter == '\\' then ['\\', '\\']
  else if letter == '\x08' then ['\\', 'b']
  else if letter == '\x0c' then ['\\', 'f']
  else if letter == '\n' then ['\\', 'n']
  else if letter == '\r' then ['\\', 'r']
  else if letter == '\t' then ['\\', 't']
  else if letter.toNat < 0x20 then
    ['\\', 'u', '0', '0', hexDigit (letter.toNat / 16), hexDigit (letter.toNat % 16)]
  else [letter]

/-- A string literal. A string without a value is written as the empty one. -/
def quoted (content : Option String) : List Char :=
  '"' :: ((content.getD "").toList.flatMap escaped ++ ['"'])

/-- Texts with a separator between neighbours. -/
def separated (separator : List Char) (texts : List (List Char)) : List Char :=
  separator.intercalate texts

mutual

/-- The compact text of a value. -/
def write : Json → List Char
  | .null => ['n', 'u', 'l', 'l']
  | .bool true => ['t', 'r', 'u', 'e']
  | .bool false => ['f', 'a', 'l', 's', 'e']
  | .number literal => literal.toList
  | .text content => quoted content
  | .array items => '[' :: (separated [','] (writeItems items) ++ [']'])
  | .object members => '{' :: (separated [','] (writeMembers members) ++ ['}'])

/-- The compact texts of items. -/
def writeItems : List Json → List (List Char)
  | [] => []
  | item :: rest => write item :: writeItems rest

/-- The compact texts of members. -/
def writeMembers : List (Option String × Json) → List (List Char)
  | [] => []
  | (key, value) :: rest => (quoted key ++ ':' :: write value) :: writeMembers rest

end

/-- The compact text of a value as a string. -/
def compact (value : Json) : String :=
  String.ofList value.write

/-- A line break and the indentation of a depth. -/
def lineAt (depth : Nat) : List Char :=
  '\n' :: List.replicate (2 * depth) ' '

/-- Lines between brackets; nothing stands between them if there are no lines. -/
def block (depth : Nat) (opening closing : Char) (texts : List (List Char)) : List Char :=
  if texts.isEmpty then [opening, closing]
  else
    opening :: (lineAt (depth + 1) ++ separated (',' :: lineAt (depth + 1)) texts
      ++ lineAt depth ++ [closing])

mutual

/-- The indented text of a value at a depth. -/
def writeAt (depth : Nat) : Json → List Char
  | .array items => block depth '[' ']' (writeItemsAt (depth + 1) items)
  | .object members => block depth '{' '}' (writeMembersAt (depth + 1) members)
  | other => write other

/-- The indented texts of items. -/
def writeItemsAt (depth : Nat) : List Json → List (List Char)
  | [] => []
  | item :: rest => writeAt depth item :: writeItemsAt depth rest

/-- The indented texts of members. -/
def writeMembersAt (depth : Nat) : List (Option String × Json) → List (List Char)
  | [] => []
  | (key, value) :: rest => (quoted key ++ ':' :: ' ' :: writeAt depth value) :: writeMembersAt depth rest

end

/-- The indented text of a value as a string. -/
def indented (value : Json) : String :=
  String.ofList (value.writeAt 0)

end Letterbox.Json
