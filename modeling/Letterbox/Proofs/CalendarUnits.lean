import Letterbox.Proofs.DateOrder

/-!
# Units of the calendar

A moment has a year, a month, a day, an hour, a minute, a second and a millisecond. Moments that agree on these
down to one of them lie in one unit of the calendar. Main statement: a moment is cut to the first moment of its
unit, which is the last start of a unit that is not after it, and two moments are cut to one date exactly if they
lie in one unit.
-/

namespace Letterbox

/-- The year, month, day, hour, minute, second and millisecond of a moment. -/
def Instant.fields (instant : Instant) : List Int :=
  [instant.date.year, instant.date.month, instant.date.day, instant.secondOfDay / 3600,
    instant.secondOfDay / 60 % 60, instant.secondOfDay % 60, instant.nanos / 1000000]

namespace CivilDate

theorem eq_iff {one other : CivilDate} :
    one = other ↔ one.year = other.year ∧ one.month = other.month ∧ one.day = other.day := by
  cases one
  cases other
  simp

/-- A year starts with its first day, a month with its first day, and neither after a day of theirs. -/
theorem first_le_dayNumber {date : CivilDate} (valid : date.isValid = true) :
    dayNumber ⟨date.year, 1, 1⟩ ≤ dayNumber ⟨date.year, date.month, 1⟩
      ∧ dayNumber ⟨date.year, date.month, 1⟩ ≤ date.dayNumber := by
  obtain ⟨⟨-, start⟩, -⟩ := isValid_iff.mp valid
  simp only [dayNumber, Calendar.daysBeforeMonth_one]
  omega

/-- The first day of an existing month exists. -/
theorem isValid_first {date : CivilDate} (valid : date.isValid = true) :
    (⟨date.year, date.month, 1⟩ : CivilDate).isValid = true := by
  obtain ⟨⟨months, -⟩, -⟩ := isValid_iff.mp valid
  exact isValid_iff.mpr ⟨⟨months, Nat.le_refl 1⟩, Calendar.one_le_daysInMonth _ _⟩

theorem isValid_newYear (year : Int) : (⟨year, 1, 1⟩ : CivilDate).isValid = true :=
  isValid_iff.mpr ⟨by simp, Calendar.one_le_daysInMonth _ _⟩

end CivilDate

namespace Resolution

/-- How many of the fields of a moment tell its unit. -/
def depth : Resolution → Nat
  | year => 1
  | month => 2
  | day => 3
  | hour => 4
  | minute => 5
  | second => 6
  | millisecond => 7

/-- Two moments agree on all fields down to that of the unit. -/
def Agree (resolution : Resolution) (one other : Instant) : Prop :=
  one.fields.take resolution.depth = other.fields.take resolution.depth

instance (resolution : Resolution) (one other : Instant) : Decidable (resolution.Agree one other) :=
  inferInstanceAs (Decidable (_ = _))

/-- A moment is the first of its unit, leap seconds apart. -/
def StartsUnit (resolution : Resolution) (first : Instant) : Prop :=
  first.IsPlain
    ∧ ∀ other : Instant, other.IsPlain → resolution.Agree other first → first.totalNanos ≤ other.totalNanos

variable {resolution : Resolution} {instant one other : Instant}

/-- Moments that agree down to a unit are those that lie in one. -/
theorem agree_iff_sameUnit : resolution.Agree one other ↔ resolution.SameUnit one other := by
  cases resolution with
  | year | month | day =>
      simp only [Agree, SameUnit, Instant.fields, depth, CivilDate.eq_iff, List.take_succ_cons, List.take_zero,
        List.cons.injEq, and_true, Int.natCast_inj]
  | hour | minute | second | millisecond =>
      simp only [Agree, SameUnit, Instant.fields, depth, CivilDate.eq_iff, List.take_succ_cons, List.take_zero,
        List.cons.injEq, and_true]
      omega

/-! ## The start of a unit -/

/-- Milliseconds since 1970 at the start of the unit of a moment, however many bits its nanoseconds have. -/
def start (resolution : Resolution) (instant : Instant) : Int :=
  match resolution.span? with
  | some span => instant.seconds / span * span * 1000
  | none => resolution.truncate instant

/-- Where a unit is cut off a moment, the moment is cut to the start of the unit. -/
theorem truncate_eq_start (plain : instant.IsPlain) (reached : resolution.Reaches instant) :
    resolution.truncate instant = resolution.start instant := by
  cases resolution with
  | year | month | millisecond => rfl
  | day | hour | minute | second =>
      simp only [start, span?, truncate]
      rw [cutToSpan_of_reached reached, spans_eq plain, Int.mul_assoc]

/-- The moments of a unit have one start. -/
theorem start_congr (plain : one.IsPlain) (sound : other.IsPlain) (same : resolution.SameUnit one other) :
    resolution.start one = resolution.start other := by
  cases resolution with
  | year | month | millisecond => exact truncate_eq_of_sameUnit _ plain sound (by trivial) (by trivial) same
  | day | hour | minute | second =>
      simp only [start, span?, (sameUnit_iff rfl).mp same]

/-- The unit of a later moment does not start earlier. -/
theorem start_mono (plain : one.IsPlain) (sound : other.IsPlain) (ordered : one.totalNanos ≤ other.totalNanos) :
    resolution.start one ≤ resolution.start other := by
  have seconds : one.seconds ≤ other.seconds := by
    rw [plain.seconds_eq, sound.seconds_eq]
    exact Int.ediv_le_ediv (by decide) ordered
  cases resolution with
  | year | month | millisecond =>
      simp only [start, span?]
      exact truncate_mono _ plain sound ordered fun _ _ => trivial
  | day | hour | minute | second =>
      simp only [start, span?]
      omega

/-- A unit does not start after its moments. -/
theorem start_le (resolution : Resolution) (instant : Instant) :
    resolution.start instant * 1000000 ≤ instant.totalNanos := by
  obtain ⟨valid, number⟩ := instant.date_spec
  obtain ⟨months, days⟩ := CivilDate.first_le_dayNumber valid
  have seconds := instant.seconds_eq_day
  cases resolution with
  | year | month =>
      simp only [start, span?, truncate, startOfMonth, Instant.totalNanos]
      omega
  | day | hour | minute | second =>
      simp only [start, span?, Instant.totalNanos]
      omega
  | millisecond =>
      simp only [start, span?, truncate, Instant.millis, Instant.totalNanos]
      omega

/-! ## The first moment of a unit -/

/-- No moment is before the first day of the first year in reach. -/
theorem firstSecond_le_newYear (instant : Instant) :
    Instant.firstSecond ≤ CivilDate.dayNumber ⟨instant.date.year, 1, 1⟩ * 86400 := by
  have first : (CivilDate.ofDayNumber (Instant.firstSecond / 86400)).year = -262143 := by decide
  have reach : Instant.firstSecond / 86400 ≤ instant.day :=
    Int.ediv_le_ediv (by decide) instant.representable.1
  have years : -262143 ≤ instant.date.year := first ▸ CivilDate.year_ofDayNumber_mono reach
  have days := Calendar.daysBeforeYear_mono years
  have least : Calendar.daysBeforeYear (-262143) = -95746130 := by decide
  simp only [CivilDate.dayNumber, Calendar.daysBeforeMonth_one, Calendar.epochDay, Instant.firstSecond]
  omega

/-- A day starts with a moment, unless it is out of reach. -/
theorem exists_midnight {date : CivilDate} (valid : date.isValid = true)
    (low : Instant.firstSecond ≤ date.dayNumber * 86400) (high : date.dayNumber * 86400 ≤ Instant.lastSecond) :
    ∃ first : Instant, first.IsPlain ∧ first.totalNanos = date.dayNumber * 86400000 * 1000000
      ∧ first.date = date := by
  refine ⟨⟨date.dayNumber * 86400, 0, low, high, by decide, by simp⟩, Nat.zero_lt_succ _, ?_, ?_⟩
  · simp only [Instant.totalNanos]
    omega
  · rw [Instant.date, Int.mul_ediv_cancel _ (by decide)]
    exact CivilDate.ofDayNumber_dayNumber valid

/-- A span of seconds starts with a moment, unless it is out of reach. -/
theorem exists_first_of_span {span : Int} (cut : resolution.span? = some span) (positive : 0 < span)
    (low : Instant.firstSecond ≤ instant.seconds / span * span) :
    ∃ first : Instant, first.IsPlain ∧ first.totalNanos = resolution.start instant * 1000000
      ∧ resolution.SameUnit first instant := by
  have high : instant.seconds / span * span ≤ Instant.lastSecond :=
    Int.le_trans (Int.ediv_mul_le _ (Int.ne_of_gt positive)) instant.representable.2.1
  refine ⟨⟨instant.seconds / span * span, 0, low, high, by decide, by simp⟩, Nat.zero_lt_succ _, ?_, ?_⟩
  · simp only [start, cut, Instant.totalNanos]
    generalize instant.seconds / span * span = begins
    omega
  · exact (sameUnit_iff cut).mpr (Int.mul_ediv_cancel _ (Int.ne_of_gt positive))

/-- The start of a unit is a moment of the unit. -/
theorem exists_first (resolution : Resolution) (plain : instant.IsPlain) :
    ∃ first : Instant, first.IsPlain ∧ first.totalNanos = resolution.start instant * 1000000
      ∧ resolution.SameUnit first instant := by
  obtain ⟨valid, number⟩ := instant.date_spec
  obtain ⟨months, days⟩ := CivilDate.first_le_dayNumber valid
  have reach := firstSecond_le_newYear instant
  have seconds := instant.seconds_eq_day
  obtain ⟨low, high, -⟩ := instant.representable
  cases resolution with
  | year =>
      obtain ⟨first, sound, start, date⟩ :=
        exists_midnight (CivilDate.isValid_newYear instant.date.year) reach (by omega)
      refine ⟨first, sound, start, ?_⟩
      rw [SameUnit, date]
  | month =>
      obtain ⟨first, sound, start, date⟩ :=
        exists_midnight (CivilDate.isValid_first valid) (by omega) (by omega)
      refine ⟨first, sound, start, ?_⟩
      rw [SameUnit, date]
      exact ⟨rfl, rfl⟩
  | day | hour | minute | second =>
      refine exists_first_of_span rfl (by decide) ?_
      simp only [Instant.firstSecond] at low ⊢
      omega
  | millisecond =>
      simp only [Instant.IsPlain] at plain
      refine ⟨⟨instant.seconds, instant.nanos / 1000000 * 1000000, low, high, by omega, by omega⟩, ?_, ?_, rfl, rfl, ?_⟩
      · simp only [Instant.IsPlain]
        omega
      · simp only [start, span?, truncate, Instant.millis, Instant.totalNanos]
        omega
      · exact Nat.mul_div_cancel _ (by decide)

/-- Such a moment is the first of its unit. -/
theorem startsUnit_of_start {first : Instant} (sound : first.IsPlain) (plain : instant.IsPlain)
    (begins : first.totalNanos = resolution.start instant * 1000000) (same : resolution.SameUnit first instant) :
    resolution.StartsUnit first := by
  refine ⟨sound, fun other proper agree => ?_⟩
  calc first.totalNanos = resolution.start instant * 1000000 := begins
    _ = resolution.start other * 1000000 := by
      rw [start_congr proper sound (agree_iff_sameUnit.mp agree), start_congr sound plain same]
    _ ≤ other.totalNanos := start_le resolution other

/-- The first moment of a unit is where the unit starts. -/
theorem StartsUnit.totalNanos_eq {first : Instant} (starts : resolution.StartsUnit first) :
    first.totalNanos = resolution.start first * 1000000 := by
  obtain ⟨sound, least⟩ := starts
  obtain ⟨other, plain, begins, same⟩ := exists_first resolution sound
  refine Int.le_antisymm ?_ (start_le resolution first)
  rw [← begins]
  exact least other plain (agree_iff_sameUnit.mpr same)

/-! ## Main statement -/

/-- A moment is the first of the unit of another, and no unit starts between them. -/
structure IsStartOf (resolution : Resolution) (first instant : Instant) : Prop where
  starts : resolution.StartsUnit first
  agree : resolution.Agree first instant
  le : first.totalNanos ≤ instant.totalNanos
  last : ∀ boundary : Instant, resolution.StartsUnit boundary → boundary.totalNanos ≤ instant.totalNanos →
    boundary.totalNanos ≤ first.totalNanos

theorem exists_isStartOf (resolution : Resolution) (plain : instant.IsPlain) :
    ∃ first, resolution.IsStartOf first instant ∧ first.totalNanos = resolution.start instant * 1000000 := by
  obtain ⟨first, sound, begins, same⟩ := exists_first resolution plain
  refine ⟨first, ⟨startsUnit_of_start sound plain begins same, agree_iff_sameUnit.mpr same, ?_, ?_⟩, begins⟩
  · rw [begins]
    exact start_le resolution instant
  · intro boundary starts before
    have order : resolution.start boundary ≤ resolution.start instant := start_mono starts.1 plain before
    rw [begins, starts.totalNanos_eq]
    omega

/-- Moments whose units start at one time lie in one unit. -/
theorem agree_of_start_eq (plain : one.IsPlain) (sound : other.IsPlain)
    (same : resolution.start one = resolution.start other) : resolution.Agree one other := by
  obtain ⟨first, started, begins⟩ := exists_isStartOf resolution plain
  obtain ⟨second, later, ends⟩ := exists_isStartOf resolution sound
  -- both starts are one moment
  have whole : first.totalNanos = second.totalNanos := by rw [begins, ends, same]
  have seconds : first.seconds = second.seconds := by
    rw [started.starts.1.seconds_eq, later.starts.1.seconds_eq, whole]
  have nanos : first.nanos = second.nanos := by
    simp only [Instant.totalNanos, seconds] at whole
    omega
  have single : first = second := by
    cases first
    cases second
    simp_all
  exact started.agree.symm.trans (single ▸ later.agree)

/--
A moment is cut to the milliseconds at the first moment of its unit, and another one is cut to the same exactly if
the two agree on all fields down to the unit. The unit must be cut off the moments; their nanoseconds have 64 bits
wherever it is not.
-/
theorem truncate_startOfUnit (resolution : Resolution) (plain : instant.IsPlain)
    (reached : resolution.Reaches instant) :
    (∃ first, resolution.IsStartOf first instant
        ∧ first.totalNanos = resolution.truncate instant * 1000000)
      ∧ ∀ other : Instant, other.IsPlain → resolution.Reaches other →
        (resolution.truncate instant = resolution.truncate other ↔ resolution.Agree instant other) := by
  refine ⟨?_, fun other sound attained => ?_⟩
  · rw [truncate_eq_start plain reached]
    exact exists_isStartOf resolution plain
  · rw [truncate_eq_start plain reached, truncate_eq_start sound attained]
    exact ⟨agree_of_start_eq plain sound, fun agree => start_congr plain sound (agree_iff_sameUnit.mp agree)⟩

/-- The first moment whose nanoseconds have 64 bits, in the year 1677; its day starts before it. -/
def leastMoment : Instant :=
  ⟨-9223372037, 145224192, by decide⟩

/-- The last moment of that day. -/
def lastOfDay : Instant :=
  ⟨-9223286401, 999999999, by decide⟩

theorem truncate_startOfUnit_leastMoment :
    leastMoment.IsPlain ∧ day.Reaches leastMoment ∧ lastOfDay.IsPlain ∧ day.Reaches lastOfDay
      ∧ (∃ first, day.IsStartOf first leastMoment ∧ first.totalNanos = -9223372800000000000)
      ∧ day.truncate leastMoment = day.truncate lastOfDay
      ∧ hour.truncate leastMoment ≠ hour.truncate lastOfDay := by
  have reached : inNanoRange leastMoment.totalNanos = true := by decide
  have attained : inNanoRange lastOfDay.totalNanos = true := by decide
  have plain : leastMoment.IsPlain := by decide
  have sound : lastOfDay.IsPlain := by decide
  have cut : day.truncate leastMoment * 1000000 = -9223372800000000000 := by decide
  obtain ⟨start, days⟩ := truncate_startOfUnit day plain reached
  obtain ⟨-, hours⟩ := truncate_startOfUnit hour plain reached
  rw [cut] at start
  refine ⟨plain, reached, sound, attained, start, (days lastOfDay sound attained).mpr (by decide), fun same => ?_⟩
  exact absurd ((hours lastOfDay sound attained).mp same) (by decide)

end Resolution

end Letterbox
