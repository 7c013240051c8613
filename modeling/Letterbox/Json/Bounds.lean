import Letterbox.Json

/-!
# Bounded JSON values

A value that is kept as a whole, and not read member by member, must be representable throughout: every
string is one, every number lies in the range of double precision, and the nesting is not too deep.
-/

namespace Letterbox.Json

/-- How deep arrays and objects may be nested. -/
def deepest : Nat := 127

/-- The least number that is rounded to infinity in double precision. -/
def firstInfinite : Nat := Nat.pow 2 1024 - Nat.pow 2 970

/-- The number that a row of digits writes; other letters count for nothing. -/
def digitsValue (letters : List Char) : Nat :=
  (letters.filter Char.isDigit).foldl (fun value letter => value * 10 + (letter.toNat - '0'.toNat)) 0

/-- The exponent of ten that the part of a number behind its `e` writes. -/
def exponentValue (letters : List Char) : Int :=
  if letters.contains '-' then -(digitsValue letters : Int) else digitsValue letters

/-- Whether a natural number times a power of ten is less than `firstInfinite`. -/
def isFinite (digits : Nat) (exponent : Int) : Bool :=
  match exponent with
  | .ofNat power => digits = 0 || (power ≤ 308 && digits * Nat.pow 10 power < firstInfinite)
  | .negSucc power =>
    (Nat.toDigits 10 digits).length ≤ power || digits < firstInfinite * Nat.pow 10 (power + 1)

/-- Whether the number of a literal lies in the range of double precision. -/
def isFiniteLiteral (literal : List Char) : Bool :=
  let body := literal.takeWhile (· ≠ 'e')
  let fraction := (body.dropWhile (· ≠ '.')).drop 1
  isFinite (digitsValue body) (exponentValue (literal.dropWhile (· ≠ 'e')) - fraction.length)

mutual

/-- Whether a value is representable throughout, with room for some levels of nesting. -/
def isBounded (room : Nat) : Json → Bool
  | .null | .bool _ => true
  | .number literal => isFiniteLiteral literal.toList
  | .text content => content.isSome
  | .array items => 0 < room && areBounded (room - 1) items
  | .object members => 0 < room && haveBounded (room - 1) members

/-- Whether all items of an array are representable. -/
def areBounded (room : Nat) : List Json → Bool
  | [] => true
  | item :: rest => isBounded room item && areBounded room rest

/-- Whether all members of an object are representable. -/
def haveBounded (room : Nat) : List (Option String × Json) → Bool
  | [] => true
  | (key, value) :: rest => key.isSome && isBounded room value && haveBounded room rest

end

end Letterbox.Json
