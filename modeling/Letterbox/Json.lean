/-!
# JSON values

A JSON value keeps what its text says: numbers stay as they are written, and an object lists its
members in order, repeated keys included. A string literal with an unpaired surrogate escape has no
value; it may be skipped but not used.
-/

namespace Letterbox

/-- A JSON value. -/
inductive Json where
  | null
  | bool (value : Bool)
  | number (literal : String)
  | text (content : Option String)
  | array (items : List Json)
  | object (members : List (Option String × Json))
deriving Repr, BEq, Inhabited

namespace Json

/-- A string as a value. -/
def str (content : String) : Json := .text (some content)

/-- A natural number as a value. -/
def nat (value : Nat) : Json := .number (toString value)

/-- An integer as a value. -/
def int (value : Int) : Json := .number (toString value)

/-- A word of 64 bits as a value. -/
def word (value : UInt64) : Json := nat value.toNat

/-- A list of strings as a value. -/
def strings (items : List String) : Json := .array (items.map str)

/-- An object with distinct keys. -/
def record (members : List (String × Json)) : Json :=
  .object (members.map fun (key, value) => (some key, value))

/-- The text of a string. -/
def text? : Json → Option String
  | .text content => content
  | _ => none

/-- A truth value. -/
def bool? : Json → Option Bool
  | .bool value => some value
  | _ => none

/-- The items of an array. -/
def items? : Json → Option (List Json)
  | .array items => some items
  | _ => none

/-- The number that a row of decimal digits writes. -/
def digits? (literal : List Char) : Option Nat :=
  if literal.all Char.isDigit ∧ ! literal.isEmpty then
    some (literal.foldl (fun value letter => value * 10 + (letter.toNat - '0'.toNat)) 0)
  else none

/-- The word of 64 bits that a number without sign, fraction and exponent writes. -/
def word? : Json → Option UInt64
  | .number literal => do
    let value ← digits? literal.toList
    if value < UInt64.size then some (UInt64.ofNat value) else none
  | _ => none

/-- The integer that a number without fraction and exponent writes. -/
def int? : Json → Option Int
  | .number literal =>
    match literal.toList with
    | '-' :: digits => (digits? digits).map fun value => -(value : Int)
    | digits => (digits? digits).map fun value => (value : Int)
  | _ => none

/-- The last member with a key. -/
def member? (key : String) : Json → Option Json
  | .object members => (members.reverse.find? fun member => member.1 == some key).map (·.2)
  | _ => none

/-- The values of the only members with the given keys, in the order of the keys. -/
def membersNamed? (members : List (Option String × Json)) (keys : List String) : Option (List Json) :=
  keys.mapM fun key =>
    match members.filter fun member => member.1 == some key with
    | [(_, value)] => some value
    | _ => none

/--
The fields of a structure, in order: an array lists them all, an object names each once beside members
that are not looked at. A key without a value makes the object unusable.
-/
def fields? (keys : List String) : Json → Option (List Json)
  | .array items => if items.length = keys.length then some items else none
  | .object members =>
    if members.all (·.1.isSome) then membersNamed? members keys else none
  | _ => none

/-- The alternative that a value names, with what it carries: a string, or an object with one member. -/
def alternative? : Json → Option (String × Option Json)
  | .text (some name) => some (name, none)
  | .object [(some name, value)] => some (name, some value)
  | _ => none

/-- Whether an alternative carries nothing, which `null` says as well. -/
def isUnit : Option Json → Bool
  | none | some .null => true
  | _ => false

/-- The alternative of a plain enumeration. -/
def choice? {α : Type} (choices : List (String × α)) (value : Json) : Option α := do
  let (name, carried) ← value.alternative?
  if isUnit carried then choices.lookup name else none

end Json

end Letterbox
