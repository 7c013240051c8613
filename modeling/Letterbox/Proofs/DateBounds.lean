import Letterbox.Criterion.Query

/-!
# Bounds of dates

The dates that an index can hold, cut to any unit, are counts of milliseconds of 64 bits. A range of dates
without an end may therefore reach to the least or the greatest count.
-/

namespace Letterbox

namespace Calendar

theorem daysInMonth_le (year : Int) (month : Nat) : daysInMonth year month ≤ 31 := by
  unfold daysInMonth
  split <;> try split
  all_goals omega

theorem sum_daysInMonth_le (year : Int) (months : List Nat) :
    (months.map (daysInMonth year)).foldr (· + ·) 0 ≤ 31 * months.length := by
  induction months with
  | nil => simp
  | cons month later ih =>
      have := daysInMonth_le year month
      simp only [List.map_cons, List.foldr_cons, List.length_cons]
      omega

theorem daysBeforeMonth_le (year : Int) (month : Nat) :
    daysBeforeMonth year month ≤ 31 * (month - 1) := by
  have := sum_daysInMonth_le year (monthsBefore month)
  simpa [daysBeforeMonth, monthsBefore] using this

/-- A day is placed in one of the listed months, or in the last of the year. -/
theorem placeInMonths_month (year : Int) (months : List Nat) (past : Nat) :
    (placeInMonths year months past).1 = 12 ∨ (placeInMonths year months past).1 ∈ months := by
  induction months generalizing past with
  | nil => exact Or.inl rfl
  | cons month later ih =>
      unfold placeInMonths
      split
      · exact Or.inr List.mem_cons_self
      · exact (ih _).imp_right (List.mem_cons_of_mem _)

end Calendar

open Calendar

namespace CivilDate

theorem month_ofDayNumber_le (number : Int) : (ofDayNumber number).month ≤ 12 := by
  rcases placeInMonths_month (yearOfDay (number + epochDay)) (List.range' 1 12)
    ((number + epochDay) - daysBeforeYear (yearOfDay (number + epochDay))).toNat with last | listed
  · exact Nat.le_of_eq last
  · have := List.mem_range'_1.mp listed
    simp only [ofDayNumber]
    omega

/-- A year starts less than two years from where its days are. -/
theorem year_ofDayNumber_bounds (number : Int) :
    (number + epochDay) * 400 / 146097 ≤ (ofDayNumber number).year
      ∧ (ofDayNumber number).year ≤ (number + epochDay) * 400 / 146097 + 2 := by
  simp only [ofDayNumber, yearOfDay]
  split <;> try split
  all_goals omega

end CivilDate

namespace Instant

theorem day_bounds (instant : Instant) :
    -100000000 ≤ instant.seconds / 86400 ∧ instant.seconds / 86400 ≤ 100000000 := by
  obtain ⟨first, last, -⟩ := instant.representable
  simp only [firstSecond, lastSecond] at first last
  omega

theorem millis_bounds (instant : Instant) :
    leastMillis ≤ instant.millis ∧ instant.millis ≤ mostMillis := by
  obtain ⟨first, last, nanos, -⟩ := instant.representable
  simp only [firstSecond, lastSecond] at first last
  simp only [millis, leastMillis, mostMillis]
  omega

end Instant

namespace Resolution

/-- The start of a month of a year in reach. -/
theorem startOfMonth_bounds {year : Int} {month : Nat} (low : -300000 ≤ year) (high : year ≤ 300000)
    (short : month ≤ 12) :
    leastMillis ≤ startOfMonth year month ∧ startOfMonth year month ≤ mostMillis := by
  have days := daysBeforeMonth_le year month
  simp only [startOfMonth, CivilDate.dayNumber, daysBeforeYear, epochDay, leastMillis, mostMillis]
  omega

theorem year_bounds (instant : Instant) :
    -300000 ≤ instant.date.year ∧ instant.date.year ≤ 300000 := by
  have day := instant.day_bounds
  have year := CivilDate.year_ofDayNumber_bounds (instant.seconds / 86400)
  simp only [Instant.date, epochDay] at year ⊢
  omega

/-- A count of nanoseconds of 64 bits, cut to a span, gives milliseconds of 64 bits. -/
theorem cutToSpan_bounds (span : Int) (instant : Instant) (positive : 0 < span) (short : span ≤ 86400) :
    leastMillis ≤ cutToSpan span instant ∧ cutToSpan span instant ≤ mostMillis := by
  unfold cutToSpan
  split
  · next inside =>
    simp only [inNanoRange, Bool.and_eq_true, decide_eq_true_eq] at inside
    obtain ⟨low, high⟩ := inside
    generalize instant.totalNanos = nanos at low high ⊢
    have unit : 0 < span * 1000000000 := by omega
    have below := Int.ediv_mul_le nanos (Int.ne_of_gt unit)
    have above := Int.lt_ediv_add_one_mul_self nanos unit
    have scale : nanos / (span * 1000000000) * (span * 1000000000)
        = nanos / (span * 1000000000) * (span * 1000) * 1000000 := by
      rw [Int.mul_assoc, Int.mul_assoc span]
      rfl
    rw [Int.add_mul, scale] at above
    rw [scale] at below
    generalize nanos / (span * 1000000000) * (span * 1000) = cut at below above ⊢
    simp only [leastMillis, mostMillis]
    omega
  · exact instant.millis_bounds

/-- Every date of an index, cut to any unit, has 64 bits. -/
theorem truncate_bounds (resolution : Resolution) (instant : Instant) :
    leastMillis ≤ resolution.truncate instant ∧ resolution.truncate instant ≤ mostMillis := by
  have years := year_bounds instant
  have months : instant.date.month ≤ 12 := CivilDate.month_ofDayNumber_le _
  cases resolution with
  | year => exact startOfMonth_bounds years.1 years.2 (by omega)
  | month => exact startOfMonth_bounds years.1 years.2 months
  | day => exact cutToSpan_bounds _ _ (by omega) (by omega)
  | hour => exact cutToSpan_bounds _ _ (by omega) (by omega)
  | minute => exact cutToSpan_bounds _ _ (by omega) (by omega)
  | second => exact cutToSpan_bounds _ _ (by omega) (by omega)
  | millisecond => exact instant.millis_bounds

end Resolution

end Letterbox
