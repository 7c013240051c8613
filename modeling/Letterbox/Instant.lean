import Letterbox.Calendar

/-!
# Instants

A moment of universal time, to the nanosecond, and its truncation to a unit of the calendar. A leap
second lengthens the last second of a minute: its fraction counts from one to two seconds.
-/

namespace Letterbox

/-- The first second of the first year that dates reach, -262143. -/
def Instant.firstSecond : Int := -8334601228800

/-- The last second of the last year that dates reach, 262142. -/
def Instant.lastSecond : Int := 8210266876799

/--
Whether `seconds` since 1970 and `nanos` name a moment: the year is in reach, and only the last second
of a minute is lengthened.
-/
def Instant.Representable (seconds : Int) (nanos : Nat) : Prop :=
  Instant.firstSecond ≤ seconds ∧ seconds ≤ Instant.lastSecond ∧ nanos < 2000000000
    ∧ (1000000000 ≤ nanos → seconds % 60 = 59)

instance (seconds : Int) (nanos : Nat) : Decidable (Instant.Representable seconds nanos) :=
  inferInstanceAs (Decidable (_ ∧ _ ∧ _ ∧ (_ → _)))

/-- A moment: whole seconds since 1970 and the nanoseconds past them. -/
structure Instant where
  seconds : Int
  nanos : Nat
  representable : Instant.Representable seconds nanos
deriving DecidableEq

namespace Instant

/-- The start of 1970. -/
def epoch : Instant := ⟨0, 0, by decide⟩

instance : Inhabited Instant := ⟨epoch⟩

/-- The moment that a count of seconds and one of nanoseconds name, if they name one. -/
def of? (seconds : Int) (nanos : Nat) : Option Instant :=
  if valid : Representable seconds nanos then some ⟨seconds, nanos, valid⟩ else none

/-- Milliseconds since 1970, rounded down. -/
def millis (instant : Instant) : Int :=
  instant.seconds * 1000 + instant.nanos / 1000000

/-- Nanoseconds since 1970. -/
def totalNanos (instant : Instant) : Int :=
  instant.seconds * 1000000000 + instant.nanos

/-- The civil date of the moment. -/
def date (instant : Instant) : CivilDate :=
  CivilDate.ofDayNumber (instant.seconds / 86400)

/-- The second of the day, from 0 to 86399. -/
def secondOfDay (instant : Instant) : Nat :=
  (instant.seconds % 86400).toNat

end Instant

/-- The units of the calendar in which dates are compared. -/
inductive Resolution where
  | year
  | month
  | day
  | hour
  | minute
  | second
  | millisecond
deriving DecidableEq, Repr

namespace Resolution

/-- All units, from the longest to the shortest. -/
def all : List Resolution := [year, month, day, hour, minute, second, millisecond]

/-- The name of the unit. -/
def name : Resolution → String
  | year => "year"
  | month => "month"
  | day => "day"
  | hour => "hour"
  | minute => "minute"
  | second => "second"
  | millisecond => "millisecond"

/-- Milliseconds since 1970 at the start of a month. -/
def startOfMonth (year : Int) (month : Nat) : Int :=
  (CivilDate.dayNumber ⟨year, month, 1⟩) * 86400000

/-- The nanosecond counts of 64 bits. -/
def inNanoRange (nanos : Int) : Bool :=
  -9223372036854775808 ≤ nanos && nanos ≤ 9223372036854775807

/--
Milliseconds since 1970 at the last multiple of a span of seconds, where the nanosecond count of the
moment has 64 bits. A moment farther off is not cut.
-/
def cutToSpan (span : Int) (instant : Instant) : Int :=
  if inNanoRange instant.totalNanos then
    instant.totalNanos / (span * 1000000000) * (span * 1000)
  else instant.millis

/-- Milliseconds since 1970 of a moment, cut to the unit. -/
def truncate (resolution : Resolution) (instant : Instant) : Int :=
  match resolution with
  | year => startOfMonth instant.date.year 1
  | month => startOfMonth instant.date.year instant.date.month
  | day => cutToSpan 86400 instant
  | hour => cutToSpan 3600 instant
  | minute => cutToSpan 60 instant
  | second => cutToSpan 1 instant
  | millisecond => instant.millis

end Resolution

end Letterbox
