import Letterbox.Proofs.DateBounds
import Letterbox.Proofs.DateOrder
import Letterbox.Proofs.DecimalText

/-!
# Written instants are read back

Main statement: the text of every moment, leap seconds and years with a sign included, is read as that moment.
-/

namespace Letterbox.Instant

open Text

theorem isBlank_of_isDigit {letter : Char} (isDigit : letter.isDigit = true) : isBlank letter = false := by
  have range : 48 ≤ letter.toNat ∧ letter.toNat ≤ 57 := Char.isDigit_iff_toNat.mp isDigit
  simp only [isBlank, Bool.or_eq_false_iff, Bool.and_eq_false_iff, decide_eq_false_iff_not, beq_eq_false_iff_ne]
  omega

theorem trimStart_cons {letter : Char} {rest : List Char} (dark : isBlank letter = false) :
    trimStart (letter :: rest) = letter :: rest := by
  simp [trimStart, dark]

/-! ## Columns and marks -/

/-- The first digit of a column. -/
theorem exists_padded_cons (width value : Nat) :
    ∃ digit later, (padded width value).toList = digit :: later ∧ digit.isDigit = true := by
  obtain ⟨digit, later, split⟩ := List.exists_cons_of_ne_nil (padded_ne_nil width value)
  exact ⟨digit, later, split, isDigit_of_mem_padded (split ▸ List.mem_cons_self)⟩

theorem trimStart_padded (width value : Nat) (rest : List Char) :
    trimStart ((padded width value).toList ++ rest) = (padded width value).toList ++ rest := by
  obtain ⟨digit, later, split, isDigit⟩ := exists_padded_cons width value
  rw [split, List.cons_append, trimStart_cons (isBlank_of_isDigit isDigit)]

theorem readPair_padded {value : Nat} (fits : value < 100) (rest : List Char) :
    readPair ((padded 2 value).toList ++ rest) = some (value, rest) := by
  rw [readPair, trimStart_padded, readDigits_padded (by decide) fits]

theorem readMark_cons {mark : Char} (dark : isBlank mark = false) (rest : List Char) :
    readMark mark (mark :: rest) = some rest := by
  simp [readMark, trimStart_cons dark]

/-! ## Years and fractions -/

/-- Behind a sign all digits up to the next mark are read. -/
theorem readLongNumber_padded (value : Nat) {rest : List Char} (next : NoDigitNext rest) :
    readLongNumber ((padded 4 value).toList ++ rest) = some (value, rest) := by
  rw [readLongNumber, readDigits_append (padded_ne_nil 4 value) (fun _ => isDigit_of_mem_padded)
    (by simp) (Or.inr next), numberOf_padded]

theorem readYear_yearText (year : Int) {rest : List Char} (next : NoDigitNext rest) :
    readYear ((yearText year).toList ++ rest) = some (year, rest) := by
  unfold yearText
  split_ifs with short negative
  · obtain ⟨digit, later, split, isDigit⟩ := exists_padded_cons 4 year.toNat
    have found : readDigits 4 ((padded 4 year.toNat).toList ++ rest) = some (year.toNat, rest) :=
      readDigits_padded (by decide) (by omega) rest
    unfold readYear
    rw [trimStart_padded]
    split
    · simp_all
    · simp_all
    · rw [found, Option.map_some]
      simp [Int.toNat_of_nonneg short.1]
  · rw [String.toList_append]
    simp [readYear, trimStart_cons (show isBlank '-' = false by decide), readLongNumber_padded _ next,
      abs_of_neg negative]
  · rw [String.toList_append]
    simp [readYear, trimStart_cons (show isBlank '+' = false by decide), readLongNumber_padded _ next,
      abs_of_nonneg (not_lt.mp negative)]

/-- A text that goes on neither with a digit nor with a point. -/
def EndsFraction (rest : List Char) : Prop :=
  NoDigitNext rest ∧ rest.head? ≠ some '.'

theorem toList_point (text : String) : ("." ++ text).toList = '.' :: text.toList :=
  String.toList_append

/-- The digits behind a point count from the left: nine digits would be nanoseconds. -/
theorem readFraction_point (width value : Nat) {rest : List Char} (positive : 0 < width) (short : width ≤ 9)
    (fits : value < 10 ^ width) (next : NoDigitNext rest) :
    readFraction ('.' :: ((padded width value).toList ++ rest)) = some (value * 10 ^ (9 - width), rest) := by
  have all : ∀ letter ∈ (padded width value).toList, letter.isDigit = true := fun _ => isDigit_of_mem_padded
  have length := length_padded positive fits
  have ended : ([] ++ rest).dropWhile Char.isDigit = rest := dropWhile_digits (by simp) next
  rw [readFraction, readDigits_append (padded_ne_nil width value) all (by omega) (Or.inr next), numberOf_padded]
  rw [List.nil_append] at ended
  simp [ended, length]

theorem readFraction_fractionText {nanos : Nat} {rest : List Char} (proper : nanos < 1000000000)
    (ends : EndsFraction rest) : readFraction ((fractionText nanos).toList ++ rest) = some (nanos, rest) := by
  unfold fractionText
  split_ifs with whole millis micros
  · subst whole
    obtain ⟨-, point⟩ := ends
    rw [String.toList_empty, List.nil_append]
    unfold readFraction
    split
    · exact absurd rfl point
    · rfl
  · rw [toList_point, List.cons_append,
      readFraction_point 3 (nanos / 1000000) (by decide) (by decide) (by omega) ends.1,
      show nanos / 1000000 * 10 ^ (9 - 3) = nanos by omega]
  · rw [toList_point, List.cons_append,
      readFraction_point 6 (nanos / 1000) (by decide) (by decide) (by omega) ends.1,
      show nanos / 1000 * 10 ^ (9 - 6) = nanos by omega]
  · rw [toList_point, List.cons_append, readFraction_point 9 nanos (by decide) (by decide) (by omega) ends.1,
      Nat.sub_self, Nat.pow_zero, Nat.mul_one]

/-! ## Dates and clocks -/

theorem readDate_text {date : CivilDate} (valid : date.isValid = true) (rest : List Char) :
    readDate ((yearText date.year).toList ++ '-' :: ((padded 2 date.month).toList
      ++ '-' :: ((padded 2 date.day).toList ++ rest))) = some (date, rest) := by
  obtain ⟨⟨⟨-, month⟩, -⟩, day⟩ := CivilDate.isValid_iff.mp valid
  have days := Calendar.daysInMonth_le date.year date.month
  have dash : isBlank '-' = false := by decide
  simp only [readDate, readYear_yearText _ (noDigitNext_cons (show '-'.isDigit = false by decide)),
    readMark_cons dash, readPair_padded (show date.month < 100 by omega),
    readPair_padded (show date.day < 100 by omega), Option.bind_eq_bind, Option.bind_some, valid, if_true]

/-- The last second of a minute may be lengthened, and is then written as second 60. -/
theorem readClock_text {clock nanos : Nat} {rest : List Char} (day : clock < 86400) (proper : nanos < 2000000000)
    (leap : 1000000000 ≤ nanos → clock % 60 = 59) (ends : EndsFraction rest) :
    readClock ((padded 2 (clock / 3600)).toList ++ ':' :: ((padded 2 (clock / 60 % 60)).toList
      ++ ':' :: ((padded 2 (clock % 60 + nanos / 1000000000)).toList
        ++ ((fractionText (nanos % 1000000000)).toList ++ rest)))) = some ((clock, nanos), rest) := by
  have colon : isBlank ':' = false := by decide
  have nanosecond := readFraction_fractionText (show nanos % 1000000000 < 1000000000 by omega) ends
  simp only [readClock, readMark_cons colon, readPair_padded (show clock / 3600 < 100 by omega),
    readPair_padded (show clock / 60 % 60 < 100 by omega),
    readPair_padded (show clock % 60 + nanos / 1000000000 < 100 by omega), nanosecond, Option.bind_eq_bind,
    Option.bind_some]
  by_cases lengthened : 1000000000 ≤ nanos
  · have last := leap lengthened
    rw [if_neg (by omega), if_pos (by omega), show clock / 3600 * 3600 + clock / 60 % 60 * 60 + 59 = clock by omega,
      show 1000000000 + nanos % 1000000000 = nanos by omega]
  · rw [if_pos (by omega),
      show clock / 3600 * 3600 + clock / 60 % 60 * 60 + (clock % 60 + nanos / 1000000000) = clock by omega,
      Nat.mod_eq_of_lt (by omega)]

theorem toList_toText (instant : Instant) :
    instant.toText.toList
      = (yearText instant.date.year).toList ++ '-' :: ((padded 2 instant.date.month).toList
        ++ '-' :: ((padded 2 instant.date.day).toList
          ++ 'T' :: ((padded 2 (instant.secondOfDay / 3600)).toList
            ++ ':' :: ((padded 2 (instant.secondOfDay / 60 % 60)).toList
              ++ ':' :: ((padded 2 (instant.secondOfDay % 60 + instant.nanos / 1000000000)).toList
                ++ ((fractionText (instant.nanos % 1000000000)).toList ++ ['Z'])))))) := by
  simp [toText]

theorem endsFraction_zone : EndsFraction ['Z'] :=
  ⟨noDigitNext_cons (by decide), by decide⟩

/-- The text of a moment is read as that moment. -/
theorem ofText?_toText (instant : Instant) : ofText? instant.toText = some instant := by
  obtain ⟨valid, numbered⟩ := instant.date_spec
  obtain ⟨-, -, proper, last⟩ := instant.representable
  have leap : 1000000000 ≤ instant.nanos → instant.secondOfDay % 60 = 59 := by
    intro lengthened
    have last := last lengthened
    simp only [secondOfDay]
    omega
  have seconds : instant.date.dayNumber * 86400 + instant.secondOfDay = instant.seconds := by
    rw [numbered, ← instant.seconds_eq_day]
  have clock := readClock_text instant.secondOfDay_lt proper leap endsFraction_zone
  have offset : readOffset (trimStart ['Z']) = some (0, []) := by decide
  rw [ofText?, toList_toText, readDate_text valid]
  simp only [clock, offset, seconds, Option.bind_eq_bind, Option.bind_some]
  simp [of?, trimStart, instant.representable]

end Letterbox.Instant
