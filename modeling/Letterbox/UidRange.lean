import Letterbox.Json

/-!
# Ranges of message numbers

A message has a number within its mailbox, a word of 64 bits. Ranges include both ends; a range with
its ends in the wrong order holds nothing. `compress` writes a set of numbers as few ranges.
-/

namespace Letterbox

/-- The number of a message within its mailbox. -/
abbrev Uid := UInt64

/-- The largest number. -/
def lastUid : Uid := 0xFFFFFFFFFFFFFFFF

/-- The numbers from `first` to `last`. -/
structure UidRange where
  first : Uid
  last : Uid
deriving DecidableEq, Repr

namespace UidRange

/-- The range between two numbers, whichever comes first. -/
def between (one other : Uid) : UidRange :=
  if one ≤ other then ⟨one, other⟩ else ⟨other, one⟩

/-- The range of one number. -/
def single (uid : Uid) : UidRange := ⟨uid, uid⟩

/-- All numbers from one on. -/
def startingAt (uid : Uid) : UidRange := ⟨uid, lastUid⟩

/-- All numbers. -/
def all : UidRange := ⟨0, lastUid⟩

/-- Whether a number lies in the range. -/
def contains (range : UidRange) (uid : Uid) : Bool :=
  range.first ≤ uid && uid ≤ range.last

/-- Whether the ends are in order. -/
def isOrdered (range : UidRange) : Bool :=
  range.first ≤ range.last

/-- A range is written by its ends, or as one number; a star stands for the largest. -/
def text (range : UidRange) : String :=
  if range.first = range.last then toString range.first.toNat
  else if range.last = lastUid then toString range.first.toNat ++ ":*"
  else toString range.first.toNat ++ ":" ++ toString range.last.toNat

/--
The ranges of ascending numbers that continue a range: a number just behind it lengthens it, and a
larger one starts the next.
-/
def extend (range : UidRange) : List Uid → List UidRange
  | [] => [range]
  | uid :: rest =>
    if uid ≤ range.last then extend range rest
    else if uid - range.last = 1 then extend ⟨range.first, uid⟩ rest
    else range :: extend (single uid) rest

/-- The fewest ranges that hold exactly the given numbers, in ascending order. -/
def compress (uids : List Uid) : List UidRange :=
  match uids.mergeSort fun one other => decide (one ≤ other) with
  | [] => []
  | uid :: rest => extend (single uid) rest

/-- The JSON form: both ends. -/
def toJson (range : UidRange) : Json :=
  Json.record [("from", Json.word range.first), ("to", Json.word range.last)]

/-- The range with a JSON form, ends as they stand. -/
def ofJson? (value : Json) : Option UidRange := do
  match ← value.fields? ["from", "to"] with
  | [first, last] => some ⟨← first.word?, ← last.word?⟩
  | _ => none

end UidRange

end Letterbox
