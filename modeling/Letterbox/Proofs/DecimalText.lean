import Letterbox.Instant.Text
import Letterbox.Json
import Mathlib

/-!
# Decimal texts

A number is written as digits of which the first is not zero, but for zero itself, and in a column of some
width with zeros before them. Main statements: both are read as the number, and what is read ends where the
digits end.
-/

namespace Letterbox

/-- A text that does not go on with a digit. -/
def NoDigitNext (rest : List Char) : Prop :=
  ∀ letter ∈ rest.head?, letter.isDigit = false

theorem noDigitNext_nil : NoDigitNext [] := by
  simp [NoDigitNext]

theorem noDigitNext_cons {letter : Char} {rest : List Char} (plain : letter.isDigit = false) :
    NoDigitNext (letter :: rest) := by
  simpa [NoDigitNext] using plain

theorem NoDigitNext.take {rest : List Char} (next : NoDigitNext rest) (count : Nat) :
    NoDigitNext (rest.take count) := by
  intro letter first
  rw [List.head?_take] at first
  split at first
  · simp at first
  · exact next letter first

section

variable {digits rest : List Char}

theorem takeWhile_digits (all : ∀ letter ∈ digits, letter.isDigit = true) (next : NoDigitNext rest) :
    (digits ++ rest).takeWhile Char.isDigit = digits := by
  rw [List.takeWhile_append_of_pos all]
  cases rest with
  | nil => simp
  | cons letter later => simp [next letter rfl]

theorem dropWhile_digits (all : ∀ letter ∈ digits, letter.isDigit = true) (next : NoDigitNext rest) :
    (digits ++ rest).dropWhile Char.isDigit = rest := by
  rw [List.dropWhile_append_of_pos all]
  cases rest with
  | nil => rfl
  | cons letter later => simp [next letter rfl]

end

/-! ## Numbers -/

theorem toList_toString (value : Nat) : (toString value).toList = Nat.toDigits 10 value := by
  rw [Nat.toString_eq_repr, Nat.toList_repr]

theorem isDigit_of_mem_decimal {value : Nat} {letter : Char} (listed : letter ∈ Nat.toDigits 10 value) :
    letter.isDigit = true :=
  Nat.isDigit_of_mem_toDigits (by decide) (by decide) listed

/-- Only zero starts with a zero. -/
theorem head?_decimal_ne_zero {value : Nat} (positive : 0 < value) :
    (Nat.toDigits 10 value).head? ≠ some '0' := by
  induction value using Nat.strongRecOn with
  | _ value ih =>
      rw [Nat.toDigits_eq_if (by decide)]
      split
      · next small =>
        interval_cases value <;> decide
      · next large =>
        rw [List.head?_append_of_ne_nil _ Nat.toDigits_ne_nil]
        exact ih (value / 10) (by omega) (by omega)

/-- The digits of a text, each ten times the worth of the one behind it, make a number. -/
theorem numberOf_eq (digits : List Char) : Instant.numberOf digits = Nat.ofDigitChars 10 digits 0 := by
  simp only [Instant.numberOf, Nat.ofDigitChars_eq_foldl, Nat.mul_comm]

theorem numberOf_decimal (value : Nat) : Instant.numberOf (Nat.toDigits 10 value) = value := by
  rw [numberOf_eq, Nat.ofDigitChars_ten_toDigits]

theorem Json.digits?_decimal (value : Nat) : Json.digits? (Nat.toDigits 10 value) = some value := by
  have all : (Nat.toDigits 10 value).all Char.isDigit = true :=
    List.all_eq_true.mpr fun letter listed => isDigit_of_mem_decimal listed
  have nonempty : (Nat.toDigits 10 value).isEmpty = false := by
    simp [Nat.toDigits_ne_nil]
  rw [digits?, all, nonempty]
  exact congrArg some (numberOf_decimal value)

namespace Json

theorem word?_word (value : UInt64) : (word value).word? = some value := by
  simp only [word, nat, word?, toList_toString, digits?_decimal]
  rw [Option.bind_eq_bind, Option.bind_some, if_pos value.toNat_lt, UInt64.ofNat_toNat]

end Json

/-! ## Columns -/

namespace Instant

theorem toList_padded (width value : Nat) :
    (padded width value).toList
      = List.replicate (width - (Nat.toDigits 10 value).length) '0' ++ Nat.toDigits 10 value := by
  have zeros : ∀ count, ("".pushn '0' count).toList = List.replicate count '0' := by
    intro count
    induction count with
    | zero => rfl
    | succ count ih =>
        rw [List.replicate_succ', ← ih]
        exact String.toList_push ..
  have length : (toString value).length = (Nat.toDigits 10 value).length := by
    rw [← toList_toString, String.length_toList]
  rw [padded, String.toList_append, zeros, length, toList_toString]

theorem isDigit_of_mem_padded {width value : Nat} {letter : Char}
    (listed : letter ∈ (padded width value).toList) : letter.isDigit = true := by
  rw [toList_padded] at listed
  rcases List.mem_append.mp listed with zero | digit
  · rw [(List.mem_replicate.mp zero).2]
    rfl
  · exact isDigit_of_mem_decimal digit

theorem numberOf_padded (width value : Nat) : numberOf (padded width value).toList = value := by
  rw [toList_padded, numberOf_eq, Nat.ofDigitChars_append, Nat.ofDigitChars_replicate_zero, Nat.mul_zero,
    Nat.ofDigitChars_ten_toDigits]

/-- A number that has no more digits than the column fills it. -/
theorem length_padded {width value : Nat} (positive : 0 < width) (fits : value < 10 ^ width) :
    (padded width value).toList.length = width := by
  have few := (Nat.length_toDigits_le_iff (by decide) positive).mpr fits
  rw [toList_padded, List.length_append, List.length_replicate]
  omega

theorem padded_ne_nil (width value : Nat) : (padded width value).toList ≠ [] := by
  rw [toList_padded]
  simp [Nat.toDigits_ne_nil]

/-- Digits are read up to the first other character, or until there are as many as allowed. -/
theorem readDigits_append {most : Nat} {digits rest : List Char} (nonempty : digits ≠ [])
    (all : ∀ letter ∈ digits, letter.isDigit = true) (few : digits.length ≤ most)
    (ends : digits.length = most ∨ NoDigitNext rest) :
    readDigits most (digits ++ rest) = some (numberOf digits, rest) := by
  have next : NoDigitNext (rest.take (most - digits.length)) := by
    rcases ends with full | next
    · rw [full, Nat.sub_self]
      exact noDigitNext_nil
    · exact next.take _
  have found : ((digits ++ rest).take most).takeWhile Char.isDigit = digits := by
    rw [List.take_append, List.take_of_length_le few]
    exact takeWhile_digits all next
  rw [readDigits, found]
  simp [nonempty]

/-- A column of digits is read as the number in it. -/
theorem readDigits_padded {width value : Nat} (positive : 0 < width) (fits : value < 10 ^ width)
    (rest : List Char) :
    readDigits width ((padded width value).toList ++ rest) = some (value, rest) := by
  have full := length_padded positive fits
  rw [readDigits_append (padded_ne_nil width value) (fun _ => isDigit_of_mem_padded) full.le (Or.inl full),
    numberOf_padded]

end Instant

end Letterbox
