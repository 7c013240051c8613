/-!
# The calendar

Days of the proleptic Gregorian calendar, counted from the first of January 1970. `dayNumber` gives
the number of a civil date, and `CivilDate.ofDayNumber` the date of a number.
-/

namespace Letterbox

/-- A civil date; months and days count from one. -/
structure CivilDate where
  year : Int
  month : Nat
  day : Nat
deriving DecidableEq, Repr

namespace Calendar

/-- Every fourth year is a leap year, but of the full centuries only every fourth. -/
def isLeapYear (year : Int) : Bool :=
  year % 4 == 0 && (year % 100 != 0 || year % 400 == 0)

/-- The number of days of a month. -/
def daysInMonth (year : Int) (month : Nat) : Nat :=
  match month with
  | 2 => if isLeapYear year then 29 else 28
  | 4 | 6 | 9 | 11 => 30
  | _ => 31

/-- The number of days from the start of year 1 to the start of a year. -/
def daysBeforeYear (year : Int) : Int :=
  let past := year - 1
  365 * past + past / 4 - past / 100 + past / 400

/-- The months of a year before a month. -/
def monthsBefore (month : Nat) : List Nat :=
  List.range' 1 (month - 1)

/-- The number of days of a year before a month. -/
def daysBeforeMonth (year : Int) (month : Nat) : Nat :=
  ((monthsBefore month).map (daysInMonth year)).foldr (· + ·) 0

/-- The number of days from the start of year 1 to the start of 1970. -/
def epochDay : Int := 719162

/-- The year that holds a day counted from the start of year 1. -/
def yearOfDay (day : Int) : Int :=
  let guess := day * 400 / 146097
  if daysBeforeYear (guess + 2) ≤ day then guess + 2
  else if daysBeforeYear (guess + 1) ≤ day then guess + 1
  else guess

/-- The month and the day of the month, given the days past since the first of the listed months. -/
def placeInMonths (year : Int) : List Nat → Nat → Nat × Nat
  | [], past => (12, past + 1)
  | month :: later, past =>
    if past < daysInMonth year month then (month, past + 1)
    else placeInMonths year later (past - daysInMonth year month)

end Calendar

open Calendar

/-- Whether the month and the day exist. -/
def CivilDate.isValid (date : CivilDate) : Bool :=
  1 ≤ date.month && date.month ≤ 12 && 1 ≤ date.day && date.day ≤ daysInMonth date.year date.month

/-- The number of days from the first of January 1970. -/
def CivilDate.dayNumber (date : CivilDate) : Int :=
  daysBeforeYear date.year + daysBeforeMonth date.year date.month + (date.day - 1) - epochDay

/-- The date of a day counted from the first of January 1970. -/
def CivilDate.ofDayNumber (number : Int) : CivilDate :=
  let day := number + epochDay
  let year := yearOfDay day
  let (month, dayOfMonth) :=
    placeInMonths year (List.range' 1 12) (day - daysBeforeYear year).toNat
  ⟨year, month, dayOfMonth⟩

end Letterbox
