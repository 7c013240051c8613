import Letterbox.Instant
import Letterbox.Proofs.CalendarDays

/-!
# The order of dates cut to a unit

Main statements: of two moments the later one is not cut to an earlier date, and two moments of one unit of
the calendar are cut to one date. Days and shorter spans are cut by counts of nanoseconds, so for these units
the second holds where the counts have 64 bits, and the first but for a unit in which these counts begin.
-/

namespace Letterbox

namespace Instant

/-- A moment that is not in a leap second. -/
def IsPlain (instant : Instant) : Prop :=
  instant.nanos < 1000000000

instance (instant : Instant) : Decidable instant.IsPlain :=
  inferInstanceAs (Decidable (instant.nanos < 1000000000))

variable {earlier later : Instant}

theorem millis_eq (instant : Instant) : instant.millis = instant.totalNanos / 1000000 := by
  simp only [millis, totalNanos]
  omega

theorem IsPlain.seconds_eq {instant : Instant} (plain : instant.IsPlain) :
    instant.seconds = instant.totalNanos / 1000000000 := by
  simp only [IsPlain] at plain
  simp only [totalNanos]
  omega

theorem millis_mono (ordered : earlier.totalNanos ≤ later.totalNanos) : earlier.millis ≤ later.millis := by
  rw [millis_eq, millis_eq]
  exact Int.ediv_le_ediv (by decide) ordered

/-- The day of a moment, counted from 1970. -/
def day (instant : Instant) : Int :=
  instant.seconds / 86400

theorem day_mono (plain : earlier.IsPlain) (sound : later.IsPlain)
    (ordered : earlier.totalNanos ≤ later.totalNanos) : earlier.day ≤ later.day := by
  rw [day, day, plain.seconds_eq, sound.seconds_eq]
  exact Int.ediv_le_ediv (by decide) (Int.ediv_le_ediv (by decide) ordered)

/-- The date of a moment exists and is that of its day. -/
theorem date_spec (instant : Instant) :
    instant.date.isValid = true ∧ instant.date.dayNumber = instant.day :=
  CivilDate.ofDayNumber_spec instant.day

theorem date_eq_iff : earlier.date = later.date ↔ earlier.day = later.day :=
  CivilDate.ofDayNumber_inj

theorem secondOfDay_lt (instant : Instant) : instant.secondOfDay < 86400 := by
  simp only [secondOfDay]
  omega

/-- The seconds of a moment are those of its days and those past since the start of its day. -/
theorem seconds_eq_day (instant : Instant) :
    instant.seconds = instant.day * 86400 + instant.secondOfDay := by
  simp only [day, secondOfDay]
  omega

end Instant

namespace Resolution

/-- A unit is cut off a moment: days and shorter spans are only where the nanoseconds have 64 bits. -/
def Reaches (instant : Instant) : Resolution → Prop
  | year | month | millisecond => True
  | day | hour | minute | second => inNanoRange instant.totalNanos = true

/-- Two moments lie in one unit of the calendar. -/
def SameUnit (one other : Instant) : Resolution → Prop
  | year => one.date.year = other.date.year
  | month => one.date.year = other.date.year ∧ one.date.month = other.date.month
  | day => one.date = other.date
  | hour => one.date = other.date ∧ one.secondOfDay / 3600 = other.secondOfDay / 3600
  | minute => one.date = other.date ∧ one.secondOfDay / 60 = other.secondOfDay / 60
  | second => one.date = other.date ∧ one.secondOfDay = other.secondOfDay
  | millisecond =>
    one.date = other.date ∧ one.secondOfDay = other.secondOfDay ∧ one.nanos / 1000000 = other.nanos / 1000000

/-! ## Spans of seconds -/

variable {span : Int} {earlier later : Instant}

theorem cutToSpan_of_reached {instant : Instant} (reached : inNanoRange instant.totalNanos = true) :
    cutToSpan span instant = instant.totalNanos / (span * 1000000000) * (span * 1000) :=
  if_pos reached

theorem cutToSpan_of_missed {instant : Instant} (missed : ¬ inNanoRange instant.totalNanos = true) :
    cutToSpan span instant = instant.millis :=
  if_neg missed

/-- A moment is not cut to a later one. -/
theorem cutToSpan_le_millis (positive : 0 < span) (instant : Instant) :
    cutToSpan span instant ≤ instant.millis := by
  by_cases reached : inNanoRange instant.totalNanos = true
  · rw [cutToSpan_of_reached reached, Instant.millis_eq]
    refine Int.le_ediv_of_mul_le (by decide) ?_
    calc instant.totalNanos / (span * 1000000000) * (span * 1000) * 1000000
        = instant.totalNanos / (span * 1000000000) * (span * 1000000000) := by
          rw [Int.mul_assoc, Int.mul_assoc span]
          rfl
      _ ≤ instant.totalNanos := Int.ediv_mul_le _ (by omega)
  · exact Int.le_of_eq (cutToSpan_of_missed reached)

/-- The spans of a plain moment are counted by its seconds. -/
theorem spans_eq (plain : earlier.IsPlain) :
    earlier.totalNanos / (span * 1000000000) = earlier.seconds / span := by
  rw [plain.seconds_eq, Int.ediv_ediv_of_nonneg (by decide), Int.mul_comm 1000000000]

/-- A moment of an earlier span does not come after the start of a later one. -/
theorem millis_le_cutToSpan (plain : earlier.IsPlain) (sound : later.IsPlain) (positive : 0 < span)
    (reached : inNanoRange later.totalNanos = true) (apart : earlier.seconds / span < later.seconds / span) :
    earlier.millis ≤ cutToSpan span later := by
  rw [cutToSpan_of_reached reached, Instant.millis_eq]
  rw [← spans_eq plain, ← spans_eq sound] at apart
  have start : earlier.totalNanos < later.totalNanos / (span * 1000000000) * (span * 1000000000) :=
    (Int.ediv_lt_iff_lt_mul (by omega)).mp apart
  refine Int.le_of_lt (Int.ediv_lt_of_lt_mul (by decide) ?_)
  calc earlier.totalNanos < later.totalNanos / (span * 1000000000) * (span * 1000000000) := start
    _ = later.totalNanos / (span * 1000000000) * (span * 1000) * 1000000 := by
      rw [Int.mul_assoc _ (span * 1000), Int.mul_assoc span]
      rfl

theorem cutToSpan_mono (plain : earlier.IsPlain) (sound : later.IsPlain) (positive : 0 < span)
    (ordered : earlier.totalNanos ≤ later.totalNanos)
    (reach : earlier.seconds / span = later.seconds / span → inNanoRange later.totalNanos = true →
      inNanoRange earlier.totalNanos = true) :
    cutToSpan span earlier ≤ cutToSpan span later := by
  have steps : earlier.totalNanos / (span * 1000000000) ≤ later.totalNanos / (span * 1000000000) :=
    Int.ediv_le_ediv (by omega) ordered
  by_cases reached : inNanoRange later.totalNanos = true
  · by_cases first : inNanoRange earlier.totalNanos = true
    · rw [cutToSpan_of_reached reached, cutToSpan_of_reached first]
      exact Int.mul_le_mul_of_nonneg_right steps (by omega)
    · -- the nanoseconds of the later moment have 64 bits, so the earlier one is in a span before
      rw [cutToSpan_of_missed first]
      rw [spans_eq plain, spans_eq sound] at steps
      have apart := mt (fun same => reach same reached) first
      exact millis_le_cutToSpan plain sound positive reached (Int.lt_iff_le_and_ne.mpr ⟨steps, apart⟩)
  · rw [cutToSpan_of_missed reached]
    exact Int.le_trans (cutToSpan_le_millis positive earlier) (Instant.millis_mono ordered)

/-- Moments with the same count of spans are cut to the same one. -/
theorem cutToSpan_eq (plain : earlier.IsPlain) (sound : later.IsPlain)
    (first : inNanoRange earlier.totalNanos = true) (second : inNanoRange later.totalNanos = true)
    (same : earlier.seconds / span = later.seconds / span) :
    cutToSpan span earlier = cutToSpan span later := by
  rw [cutToSpan_of_reached first, cutToSpan_of_reached second, spans_eq plain, spans_eq sound, same]

/-! ## Months and years -/

theorem startOfMonth_mono {year other : Int} {month next : Nat}
    (le : CivilDate.dayNumber ⟨year, month, 1⟩ ≤ CivilDate.dayNumber ⟨other, next, 1⟩) :
    startOfMonth year month ≤ startOfMonth other next :=
  Int.mul_le_mul_of_nonneg_right le (by decide)

theorem startOfYear_mono {year other : Int} (le : year ≤ other) :
    startOfMonth year 1 ≤ startOfMonth other 1 := by
  have days := Calendar.daysBeforeYear_mono le
  refine startOfMonth_mono ?_
  simp only [CivilDate.dayNumber, Calendar.daysBeforeMonth_one]
  omega

/-! ## Main statements -/

/-- The seconds of a span, for the units that are cut by counts. -/
def span? : Resolution → Option Int
  | day => some 86400
  | hour => some 3600
  | minute => some 60
  | second => some 1
  | year | month | millisecond => none

/-- Units that are cut by counts are told apart by these. -/
theorem sameUnit_iff {resolution : Resolution} (cut : resolution.span? = some span) :
    resolution.SameUnit earlier later ↔ earlier.seconds / span = later.seconds / span := by
  have seconds := earlier.seconds_eq_day
  have others := later.seconds_eq_day
  have clock := earlier.secondOfDay_lt
  have other := later.secondOfDay_lt
  cases resolution with
  | year | month | millisecond => simp [span?] at cut
  | day =>
      obtain rfl := Option.some.inj cut
      exact CivilDate.ofDayNumber_inj
  | hour | minute | second =>
      obtain rfl := Option.some.inj cut
      simp only [SameUnit, Instant.date_eq_iff]
      omega

variable (resolution : Resolution)

/-- The later of two moments is not cut to an earlier date. -/
theorem truncate_mono (plain : earlier.IsPlain) (sound : later.IsPlain)
    (ordered : earlier.totalNanos ≤ later.totalNanos)
    (reach : resolution.SameUnit earlier later → resolution.Reaches later → resolution.Reaches earlier) :
    resolution.truncate earlier ≤ resolution.truncate later := by
  have days := Instant.day_mono plain sound ordered
  cases resolution with
  | year => exact startOfYear_mono (CivilDate.year_ofDayNumber_mono days)
  | month =>
      obtain ⟨valid, number⟩ := earlier.date_spec
      obtain ⟨proper, other⟩ := later.date_spec
      refine startOfMonth_mono (CivilDate.firstOfMonth_mono valid proper ?_)
      rw [number, other]
      exact days
  | day | hour | minute | second =>
      exact cutToSpan_mono plain sound (by decide) ordered fun same => reach ((sameUnit_iff rfl).mpr same)
  | millisecond => exact Instant.millis_mono ordered

/-- Two moments of one unit are cut to one date. -/
theorem truncate_eq_of_sameUnit (plain : earlier.IsPlain) (sound : later.IsPlain)
    (first : resolution.Reaches earlier) (second : resolution.Reaches later)
    (same : resolution.SameUnit earlier later) :
    resolution.truncate earlier = resolution.truncate later := by
  cases resolution with
  | year => exact congrArg (startOfMonth · 1) same
  | month =>
      obtain ⟨years, months⟩ := same
      simp only [truncate, years, months]
  | day | hour | minute | second =>
      exact cutToSpan_eq plain sound first second ((sameUnit_iff rfl).mp same)
  | millisecond =>
      obtain ⟨dates, clocks, parts⟩ := same
      have days := Instant.date_eq_iff.mp dates
      have seconds := earlier.seconds_eq_day
      have others := later.seconds_eq_day
      simp only [truncate, Instant.millis]
      omega

end Resolution

end Letterbox
