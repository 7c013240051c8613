import Letterbox.Instant
import Letterbox.Text.Blank

/-!
# Written instants

Dates are written as `2024-07-19T15:42:07.345Z`: a fraction takes three, six or nine digits or is left
out, a year outside 0 to 9999 has a sign, and a leap second is second 60. Reading is more lenient: it
allows blanks before numbers and marks, fewer digits, a blank for the `T`, and any offset below a day.
-/

namespace Letterbox.Instant

open Text

/-- A number with at least `width` digits. -/
def padded (width value : Nat) : String :=
  let digits := toString value
  "".pushn '0' (width - digits.length) ++ digits

/-- Four digits for the years from 0 to 9999, a sign and at least four digits for the others. -/
def yearText (year : Int) : String :=
  if 0 ≤ year ∧ year ≤ 9999 then padded 4 year.toNat
  else (if year < 0 then "-" else "+") ++ padded 4 year.natAbs

/-- The fraction of a second in as few groups of three digits as hold it. -/
def fractionText (nanos : Nat) : String :=
  if nanos = 0 then ""
  else if nanos % 1000000 = 0 then "." ++ padded 3 (nanos / 1000000)
  else if nanos % 1000 = 0 then "." ++ padded 6 (nanos / 1000)
  else "." ++ padded 9 nanos

/-- A moment as it is written. -/
def toText (instant : Instant) : String :=
  let date := instant.date
  let clock := instant.secondOfDay
  let leap := instant.nanos / 1000000000
  yearText date.year ++ "-" ++ padded 2 date.month ++ "-" ++ padded 2 date.day
    ++ "T" ++ padded 2 (clock / 3600) ++ ":" ++ padded 2 (clock / 60 % 60)
    ++ ":" ++ padded 2 (clock % 60 + leap) ++ fractionText (instant.nanos % 1000000000) ++ "Z"

/-- The value of a decimal digit. -/
def digit? (letter : Char) : Option Nat :=
  if letter.isDigit then some (letter.toNat - '0'.toNat) else none

/-- The number written by a row of digits. -/
def numberOf (digits : List Char) : Nat :=
  digits.foldl (fun value letter => value * 10 + (letter.toNat - '0'.toNat)) 0

/-- A number of at least one and at most `most` digits, and the text after it. -/
def readDigits (most : Nat) (text : List Char) : Option (Nat × List Char) :=
  let digits := (text.take most).takeWhile Char.isDigit
  if digits.isEmpty then none else some (numberOf digits, text.drop digits.length)

/-- A number of any length, and the text after it. -/
def readLongNumber (text : List Char) : Option (Nat × List Char) :=
  readDigits text.length text

/-- A year: up to four digits, or a sign and any number of digits. -/
def readYear (text : List Char) : Option (Int × List Char) :=
  match trimStart text with
  | '-' :: rest => (readLongNumber rest).map fun (value, after) => (-(value : Int), after)
  | '+' :: rest => (readLongNumber rest).map fun (value, after) => ((value : Int), after)
  | rest => (readDigits 4 rest).map fun (value, after) => ((value : Int), after)

/-- A number of one or two digits after blanks. -/
def readPair (text : List Char) : Option (Nat × List Char) :=
  readDigits 2 (trimStart text)

/-- The text after a mark that blanks may precede. -/
def readMark (mark : Char) (text : List Char) : Option (List Char) :=
  match trimStart text with
  | letter :: rest => if letter == mark then some rest else none
  | [] => none

/-- The nanoseconds of a fraction, of which digits after the ninth are dropped. -/
def readFraction : List Char → Option (Nat × List Char)
  | '.' :: rest =>
    (readDigits 9 rest).map fun (value, after) =>
      (value * Nat.pow 10 (9 - (rest.length - after.length)), after.dropWhile Char.isDigit)
  | rest => some (0, rest)

/-- The seconds that a signed offset from universal time adds, and the text after it. -/
def readSignedOffset (sign : Int) : List Char → Option (Int × List Char)
  | tens :: ones :: rest => do
    let hours := (← digit? tens) * 10 + (← digit? ones)
    match rest.dropWhile fun letter => letter == ':' || isBlank letter with
    | tens :: ones :: after =>
      let minutes := (← digit? tens) * 10 + (← digit? ones)
      if minutes < 60 then some (sign * (hours * 3600 + minutes * 60), after) else none
    | _ => none
  | _ => none

/-- An offset: `Z`, `UTC` in any case, or a signed number of hours and minutes. -/
def readOffset (text : List Char) : Option (Int × List Char) :=
  if ((text.take 3).map Char.toUpper) = ['U', 'T', 'C'] then some (0, text.drop 3)
  else
    match text with
    | 'Z' :: rest | 'z' :: rest => some (0, rest)
    | '+' :: rest => readSignedOffset 1 rest
    | '-' :: rest | '−' :: rest => readSignedOffset (-1) rest
    | _ => none

/-- The date at the start of a text, and the text after it. -/
def readDate (text : List Char) : Option (CivilDate × List Char) := do
  let (year, text) ← readYear text
  let (month, text) ← readPair (← readMark '-' text)
  let (day, text) ← readPair (← readMark '-' text)
  let date : CivilDate := ⟨year, month, day⟩
  if date.isValid then some (date, text) else none

/-- The second of the day and the nanoseconds at the start of a text. Second 60 lengthens second 59. -/
def readClock (text : List Char) : Option ((Nat × Nat) × List Char) := do
  let (hour, text) ← readPair text
  let (minute, text) ← readPair (← readMark ':' text)
  let (second, text) ← readPair (← readMark ':' text)
  let (nanos, text) ← readFraction text
  if hour < 24 ∧ minute < 60 ∧ second < 60 then
    some ((hour * 3600 + minute * 60 + second, nanos), text)
  else if hour < 24 ∧ minute < 60 ∧ second = 60 then
    some ((hour * 3600 + minute * 60 + 59, 1000000000 + nanos), text)
  else none

/-- The moment that a text writes. -/
def ofText? (text : String) : Option Instant := do
  let (date, rest) ← readDate text.toList
  match rest with
  | letter :: rest =>
    if letter == 'T' || letter == 't' || letter == ' ' then
      let ((clock, nanos), rest) ← readClock rest
      let (offset, rest) ← readOffset (trimStart rest)
      if (trimStart rest).isEmpty ∧ offset.natAbs < 86400
          ∧ Representable (date.dayNumber * 86400 + clock) nanos then
        of? (date.dayNumber * 86400 + clock - offset) nanos
      else none
    else none
  | [] => none

end Letterbox.Instant
