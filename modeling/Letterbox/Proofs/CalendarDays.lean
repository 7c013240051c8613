import Letterbox.Calendar

/-!
# Days of the calendar

Years follow each other without gaps, and so do the months of a year. Main statements: the numbers of days
and the civil dates that exist name each other one to one, and of two days the later one does not lie in an
earlier year or month.
-/

namespace Letterbox

namespace Calendar

/-- The number of days of a year. -/
def daysInYear (year : Int) : Nat :=
  if isLeapYear year then 366 else 365

/-- A year starts behind the days of the year before it. -/
theorem daysBeforeYear_succ (year : Int) :
    daysBeforeYear (year + 1) = daysBeforeYear year + daysInYear year := by
  simp only [daysBeforeYear, daysInYear, isLeapYear, Bool.and_eq_true, Bool.or_eq_true, beq_iff_eq,
    bne_iff_ne]
  split <;> omega

theorem daysBeforeYear_mono {one other : Int} (le : one ≤ other) :
    daysBeforeYear one ≤ daysBeforeYear other := by
  simp only [daysBeforeYear]
  omega

/-- A day lies in its year. -/
theorem yearOfDay_spec (day : Int) :
    daysBeforeYear (yearOfDay day) ≤ day ∧ day < daysBeforeYear (yearOfDay day + 1) := by
  unfold yearOfDay
  generalize guessed : day * 400 / 146097 = guess
  -- the guess is at most two years too early, and never too late
  have low : daysBeforeYear guess ≤ day := by
    simp only [daysBeforeYear]
    omega
  have high : day < daysBeforeYear (guess + 2 + 1) := by
    simp only [daysBeforeYear]
    omega
  have next : guess + 1 + 1 = guess + 2 := by omega
  simp only
  split
  · next late => exact ⟨late, high⟩
  · next early =>
    split
    · next late => exact ⟨late, by rw [next]; exact Int.not_le.mp early⟩
    · next earlier => exact ⟨low, Int.not_le.mp earlier⟩

/-- No other year holds the day. -/
theorem yearOfDay_eq {day year : Int} (first : daysBeforeYear year ≤ day)
    (last : day < daysBeforeYear (year + 1)) : yearOfDay day = year := by
  obtain ⟨low, high⟩ := yearOfDay_spec day
  rcases Int.lt_trichotomy (yearOfDay day) year with before | same | behind
  · have := daysBeforeYear_mono (Int.add_one_le_of_lt before)
    omega
  · exact same
  · have := daysBeforeYear_mono (Int.add_one_le_of_lt behind)
    omega

theorem yearOfDay_mono {one other : Int} (le : one ≤ other) : yearOfDay one ≤ yearOfDay other := by
  refine Int.not_lt.mp fun behind => ?_
  have start := daysBeforeYear_mono (Int.add_one_le_of_lt behind)
  have first := (yearOfDay_spec one).1
  have last := (yearOfDay_spec other).2
  omega

/-! ## Months -/

theorem one_le_daysInMonth (year : Int) (month : Nat) : 1 ≤ daysInMonth year month := by
  unfold daysInMonth
  split <;> try split
  all_goals omega

theorem daysBeforeMonth_one (year : Int) : daysBeforeMonth year 1 = 0 :=
  rfl

/-- A month starts behind the days of the month before it. -/
theorem daysBeforeMonth_succ (year : Int) {month : Nat} (proper : 1 ≤ month) :
    daysBeforeMonth year (month + 1) = daysBeforeMonth year month + daysInMonth year month := by
  have sum : ∀ month, daysBeforeMonth year month = ((monthsBefore month).map (daysInMonth year)).sum :=
    fun _ => rfl
  have more : monthsBefore (month + 1) = monthsBefore month ++ [month] := by
    obtain ⟨past, rfl⟩ := Nat.exists_eq_add_of_le proper
    simp only [monthsBefore, Nat.add_sub_cancel, List.range'_1_concat, Nat.add_comm 1 past]
  rw [sum, sum, more, List.map_append, List.sum_append]
  simp

theorem daysBeforeMonth_mono (year : Int) {one other : Nat} (proper : 1 ≤ one) (le : one ≤ other) :
    daysBeforeMonth year one ≤ daysBeforeMonth year other := by
  induction le with
  | refl => exact Nat.le_refl _
  | step above ih =>
      rw [daysBeforeMonth_succ year (Nat.le_trans proper above)]
      omega

/-- The months of a year have its days. -/
theorem daysBeforeMonth_thirteen (year : Int) : daysBeforeMonth year 13 = daysInYear year := by
  simp only [daysInYear, daysBeforeMonth, monthsBefore]
  cases leap : isLeapYear year <;> simp [List.range', daysInMonth, leap]

/-- A day that is placed among months follows the days before its month and lies in the month. -/
theorem placeInMonths_spec (year : Int) {first count past : Nat} (proper : 1 ≤ first)
    (inside : daysBeforeMonth year first + past < daysBeforeMonth year (first + count)) :
    ∃ month day, placeInMonths year (List.range' first count) past = (month, day)
      ∧ first ≤ month ∧ month < first + count ∧ 1 ≤ day ∧ day ≤ daysInMonth year month
      ∧ daysBeforeMonth year first + past = daysBeforeMonth year month + (day - 1) := by
  induction count generalizing first past with
  | zero =>
      rw [Nat.add_zero] at inside
      omega
  | succ count ih =>
      have next := daysBeforeMonth_succ year proper
      rw [List.range'_succ, placeInMonths]
      split
      · next here => exact ⟨first, past + 1, rfl, by omega, by omega, by omega, by omega, by omega⟩
      · next later =>
        rw [← Nat.add_assoc, Nat.add_right_comm] at inside
        obtain ⟨month, day, placed, low, high, start, stop, same⟩ :=
          @ih (first + 1) (past - daysInMonth year first) (by omega) (by omega)
        exact ⟨month, day, placed, by omega, by omega, start, stop, by omega⟩

end Calendar

open Calendar

namespace CivilDate

/-- The month and the day exist. -/
theorem isValid_iff {date : CivilDate} :
    date.isValid = true
      ↔ ((1 ≤ date.month ∧ date.month ≤ 12) ∧ 1 ≤ date.day) ∧ date.day ≤ daysInMonth date.year date.month := by
  simp only [isValid, Bool.and_eq_true, decide_eq_true_eq]

/-- The date of a day exists and has the number of the day. -/
theorem ofDayNumber_spec (number : Int) :
    (ofDayNumber number).isValid = true ∧ (ofDayNumber number).dayNumber = number := by
  obtain ⟨low, high⟩ := yearOfDay_spec (number + epochDay)
  have whole := daysBeforeMonth_thirteen (yearOfDay (number + epochDay))
  rw [daysBeforeYear_succ] at high
  obtain ⟨month, day, placed, first, last, start, stop, same⟩ :=
    @placeInMonths_spec (yearOfDay (number + epochDay)) 1 12
      (number + epochDay - daysBeforeYear (yearOfDay (number + epochDay))).toNat (by omega) (by
        rw [daysBeforeMonth_one, whole]
        omega)
  have date : ofDayNumber number = ⟨yearOfDay (number + epochDay), month, day⟩ := by
    simp only [ofDayNumber, placed]
  rw [date]
  refine ⟨isValid_iff.mpr ⟨⟨⟨first, Nat.le_of_lt_succ last⟩, start⟩, stop⟩, ?_⟩
  rw [daysBeforeMonth_one] at same
  simp only [dayNumber]
  omega

/-- Different days have different dates. -/
theorem ofDayNumber_inj {one other : Int} : ofDayNumber one = ofDayNumber other ↔ one = other := by
  refine ⟨fun same => ?_, congrArg ofDayNumber⟩
  rw [← (ofDayNumber_spec one).2, same, (ofDayNumber_spec other).2]

/-- A later day does not lie in an earlier year. -/
theorem year_ofDayNumber_mono {one other : Int} (le : one ≤ other) :
    (ofDayNumber one).year ≤ (ofDayNumber other).year :=
  yearOfDay_mono (Int.add_le_add_right le epochDay)

/-- The days of an existing date lie in its year, and those past since the year's start in its month. -/
theorem dayNumber_bounds {date : CivilDate} (valid : date.isValid = true) :
    daysBeforeYear date.year + daysBeforeMonth date.year date.month ≤ date.dayNumber + epochDay
      ∧ date.dayNumber + epochDay < daysBeforeYear date.year + daysBeforeMonth date.year (date.month + 1)
      ∧ date.dayNumber + epochDay < daysBeforeYear (date.year + 1) := by
  obtain ⟨⟨⟨first, last⟩, start⟩, stop⟩ := isValid_iff.mp valid
  have next := daysBeforeMonth_succ date.year first
  have rest : daysBeforeMonth date.year (date.month + 1) ≤ daysBeforeMonth date.year 13 :=
    daysBeforeMonth_mono date.year (by omega) (by omega)
  rw [daysBeforeMonth_thirteen] at rest
  rw [daysBeforeYear_succ]
  simp only [dayNumber]
  omega

/-- Two existing dates with one number are one date. -/
theorem dayNumber_inj {one other : CivilDate} (valid : one.isValid = true) (proper : other.isValid = true)
    (same : one.dayNumber = other.dayNumber) : one = other := by
  obtain ⟨oneLow, oneHigh, oneYear⟩ := dayNumber_bounds valid
  obtain ⟨otherLow, otherHigh, otherYear⟩ := dayNumber_bounds proper
  obtain ⟨⟨⟨oneFirst, oneLast⟩, oneStart⟩, -⟩ := isValid_iff.mp valid
  obtain ⟨⟨⟨otherFirst, otherLast⟩, otherStart⟩, -⟩ := isValid_iff.mp proper
  obtain ⟨year, month, day⟩ := one
  obtain ⟨otherYearNumber, otherMonth, otherDay⟩ := other
  simp only at *
  obtain rfl : year = otherYearNumber :=
    (yearOfDay_eq (by omega) oneYear).symm.trans (same ▸ yearOfDay_eq (by omega) otherYear)
  rw [same] at oneLow oneHigh
  obtain rfl : month = otherMonth := by
    rcases Nat.lt_trichotomy month otherMonth with before | equal | behind
    · have start : daysBeforeMonth year (month + 1) ≤ daysBeforeMonth year otherMonth :=
        daysBeforeMonth_mono year (by omega) before
      omega
    · exact equal
    · have start : daysBeforeMonth year (otherMonth + 1) ≤ daysBeforeMonth year month :=
        daysBeforeMonth_mono year (by omega) behind
      omega
  simp only [dayNumber] at same
  congr 1
  omega

/-- The date with the number of an existing date is that date. -/
theorem ofDayNumber_dayNumber {date : CivilDate} (valid : date.isValid = true) :
    ofDayNumber date.dayNumber = date :=
  dayNumber_inj (ofDayNumber_spec _).1 valid (ofDayNumber_spec _).2

/-- A later date does not lie in an earlier month. -/
theorem firstOfMonth_mono {one other : CivilDate} (valid : one.isValid = true) (proper : other.isValid = true)
    (le : one.dayNumber ≤ other.dayNumber) :
    dayNumber ⟨one.year, one.month, 1⟩ ≤ dayNumber ⟨other.year, other.month, 1⟩ := by
  refine Int.not_lt.mp fun behind => ?_
  obtain ⟨months, start⟩ := (isValid_iff.mp valid).1
  obtain ⟨⟨otherMonths, -⟩, stop⟩ := isValid_iff.mp proper
  have first : 1 ≤ daysInMonth one.year one.month := one_le_daysInMonth _ _
  simp only [dayNumber] at le behind
  -- the month of the earlier date would start within that of the later one
  obtain ⟨past, reached⟩ : ∃ past : Nat, daysBeforeYear one.year + daysBeforeMonth one.year one.month
      = daysBeforeYear other.year + daysBeforeMonth other.year other.month + past :=
    ⟨(daysBeforeYear one.year + daysBeforeMonth one.year one.month
      - (daysBeforeYear other.year + daysBeforeMonth other.year other.month)).toNat, by omega⟩
  have same : (⟨one.year, one.month, 1⟩ : CivilDate) = ⟨other.year, other.month, past + 1⟩ := by
    refine dayNumber_inj (isValid_iff.mpr ⟨⟨months, Nat.le_refl 1⟩, first⟩)
      (isValid_iff.mpr ⟨⟨otherMonths, Nat.le_add_left 1 past⟩, ?_⟩) ?_
    · simp only
      omega
    · simp only [dayNumber]
      omega
  have day : 1 = past + 1 := (CivilDate.mk.inj same).2.2
  omega

end CivilDate

end Letterbox
