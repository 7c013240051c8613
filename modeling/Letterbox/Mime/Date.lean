import Letterbox.Instant
import Letterbox.Mime.Header

/-!
# Dates of headers

A date is read as seven numbers: day, month, year, hour, minute, second and zone. Each has a number of
places, which its digits fill from the left; a blank behind them, or a colon in the clock, ends the number
and gives up the places that are left. A sign goes straight to the zone. Names of days count for nothing.
-/

namespace Letterbox.Mime

/-- A number of a date: its value so far, and how many places are free. -/
structure DateNumber where
  value : Nat
  room : Nat
deriving DecidableEq, Repr

namespace DateNumber

/-- The number with a digit in its next place, if there is one. -/
def push (number : DateNumber) (digit : Nat) : DateNumber :=
  if number.room = 0 then number
  else ⟨number.value + digit * Nat.pow 10 (number.room - 1), number.room - 1⟩

/-- The number without its free places, which stay free. -/
def settle (number : DateNumber) : DateNumber :=
  { number with value := number.value / Nat.pow 10 number.room }

end DateNumber

/-- A date that is being read. -/
structure DateState where
  numbers : List DateNumber
  /-- Which of the numbers is under way. -/
  place : Nat
  /-- Characters of the number came. -/
  begun : Bool
  /-- Digits came at all. -/
  numbered : Bool
  /-- The letters at the place of the month, in lower case. -/
  month : List Char
  /-- The letters at the place of the zone. -/
  zone : List Char
  /-- The zone lies behind universal time. -/
  behind : Bool
  /-- How many comments are open. -/
  depth : Nat
  escaped : Bool

namespace DateState

/-- The place of the zone. -/
def zonePlace : Nat := 6

/-- The state before a value. -/
def start : DateState where
  numbers := [⟨0, 2⟩, ⟨0, 2⟩, ⟨0, 4⟩, ⟨0, 2⟩, ⟨0, 2⟩, ⟨0, 2⟩, ⟨0, 4⟩]
  place := 0
  begun := false
  numbered := false
  month := []
  zone := []
  behind := false
  depth := 0
  escaped := false

/-- Ends the number, if it has begun. -/
def endNumber (state : DateState) : DateState :=
  if state.begun && state.numbered then
    { state with
      numbers := state.numbers.modify state.place DateNumber.settle
      place := state.place + 1
      begun := false }
  else state

/-- Adds a digit to the number. -/
def digit (state : DateState) (value : Nat) : DateState :=
  let counts := state.numbers[state.place]?.any (0 < ·.room)
  { state with
    numbers := state.numbers.modify state.place (·.push value)
    begun := true
    numbered := state.numbered || counts }

/-- Adds a letter to the name of the month or the zone. -/
def letter (state : DateState) (letter : Char) : DateState :=
  { state with
    month := if state.place = 1 then state.month ++ [letter.toLower] else state.month
    zone := if state.place = zonePlace then state.zone ++ [letter] else state.zone
    begun := true }

/-- The state after one more character of a comment; a backslash keeps a closing bracket from its work. -/
def comment (state : DateState) (letter : Char) : DateState :=
  if letter = ')' then
    if state.escaped then { state with escaped := false } else { state with depth := state.depth - 1 }
  else
    { state with
      depth := if letter = '(' then state.depth + 1 else state.depth
      escaped := letter = '\\' }

/-- The state after one more byte. -/
def feed (state : DateState) (byte : UInt8) : DateState :=
  let letter := Char.ofNat byte.toNat
  if state.depth > 0 then state.comment letter
  else if letter.isDigit then state.digit (letter.toNat - '0'.toNat)
  else if letter.isAlpha then state.letter letter
  else
    match letter with
    | '+' => { state with place := zonePlace }
    | '-' => { state with place := zonePlace, behind := true }
    | ' ' | '\t' | '\n' => state.endNumber
    | ':' => if state.place = 3 ∨ state.place = 4 then state.endNumber else state
    | '(' => { state with depth := 1, begun := false }
    | _ => state

/-- The value of a number. -/
def valueAt (state : DateState) (place : Nat) : Nat :=
  (state.numbers[place]?.map (·.value)).getD 0

end DateState

/-- The weights of letters in the names of months; no other letter stands behind the first. -/
def letterWeights : List (Char × Nat) :=
  [('a', 0), ('b', 14), ('c', 4), ('e', 10), ('g', 14), ('l', 4), ('n', 10), ('o', 15), ('p', 15),
    ('r', 5), ('t', 0), ('u', 5), ('v', 15), ('y', 0)]

/-- The months by the weight of their second and third letter together. -/
def monthsByWeight : List (Nat × Nat) :=
  [(0, 5), (4, 10), (5, 3), (9, 7), (10, 1), (14, 12), (15, 6), (19, 8), (20, 4), (24, 2), (25, 9),
    (30, 11)]

/-- The greatest weight that the letters of a month can have. -/
def maxMonthWeight : Nat := 30

namespace DateState

/-- The month: three letters are a name, which its last two give away; else digits count. -/
def monthNumber (state : DateState) : Nat :=
  match state.month.map fun letter => letterWeights.lookup letter with
  | [_, some second, some third] =>
    if second + third ≤ maxMonthWeight then (monthsByWeight.lookup (second + third)).getD 0
    else state.valueAt 1
  | _ => state.valueAt 1

/-- The year; years below 50 are of this century, others below 100 of the last. -/
def year (state : DateState) : Nat :=
  let value := state.valueAt 2
  if value < 50 then value + 2000 else if value < 100 then value + 1900 else value

/-- The zones with names, in hours behind universal time. -/
def zoneHours : List (String × Int) :=
  [("EST", 5), ("EDT", 4), ("CST", 6), ("CDT", 5), ("MST", 7), ("MDT", 6), ("PST", 8), ("PDT", 7)]

/-- Seconds by which the zone lies behind universal time. A zone is within a day, its minutes within an
hour. -/
def zoneSeconds (state : DateState) : Int :=
  match zoneHours.lookup (String.ofList state.zone) with
  | some hours => hours * 3600
  | none =>
    let value := state.valueAt zonePlace
    let seconds : Int := value / 100 % 24 * 3600 + value % 100 % 60 * 60
    if state.behind then seconds else -seconds

end DateState

/-- The moment that a date names, if it has a month and comes to a zone. -/
def instantOf? (value : Bytes) : Option Instant :=
  let state := value.foldl DateState.feed .start
  let month := state.monthNumber
  if state.place < DateState.zonePlace ∨ month < 1 ∨ 12 < month then none
  else
    let day : Int := CivilDate.dayNumber ⟨state.year, month, 1⟩ + state.valueAt 0 - 1
    let clock : Int := state.valueAt 3 * 3600 + state.valueAt 4 * 60 + state.valueAt 5
    Instant.of? (day * 86400 + clock + state.zoneSeconds) 0

/-- The moment that the last date of a message names. -/
def dateOf? (message : Bytes) : Option Instant :=
  (lastHeader? (headersOf message).1 "Date").bind fun header => instantOf? header.value

end Letterbox.Mime
