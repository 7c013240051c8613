import Letterbox.Query
import Mathlib

/-!
# Terms with a common start

Queries by the start of a term are ranges of the ordered terms. Main statement: a term lies in the range
from a start up to the start's successor exactly when it begins with the start.
-/

namespace Letterbox

namespace Text

@[simp] theorem lettersPrecede_nil (text : List Char) : lettersPrecede text [] = false := by
  cases text <;> rfl

/-- What two texts begin with in common does not decide their order. -/
@[simp] theorem lettersPrecede_append (start first second : List Char) :
    lettersPrecede (start ++ first) (start ++ second) = lettersPrecede first second := by
  induction start with
  | nil => rfl
  | cons letter rest ih => simpa [lettersPrecede] using ih

/-- What stands before a text stands before its continuations. -/
theorem lettersPrecede_continued {text start : List Char} (h : lettersPrecede text start = true)
    (more : List Char) : lettersPrecede text (start ++ more) = true := by
  induction start generalizing text with
  | nil => simp at h
  | cons letter rest ih =>
      cases text with
      | nil => rfl
      | cons one others =>
          by_cases same : one = letter
          · subst same
            simp only [lettersPrecede, if_true, List.cons_append] at h ⊢
            exact ih h
          · simpa [lettersPrecede, same] using h

/-- A text between two continuations of a start begins with the start. -/
theorem prefix_of_between {start text low high : List Char}
    (notBelow : ¬ lettersPrecede text (start ++ low) = true)
    (below : lettersPrecede text (start ++ high) = true) : start <+: text := by
  induction start generalizing text with
  | nil => exact List.nil_prefix
  | cons letter rest ih =>
      cases text with
      | nil => exact absurd rfl notBelow
      | cons one others =>
          by_cases same : one = letter
          · subst same
            simp only [lettersPrecede, if_true, List.cons_append] at notBelow below
            exact List.cons_prefix_cons.mpr ⟨rfl, ih notBelow below⟩
          · -- the first letters differ, so both comparisons look at them alone
            simp only [lettersPrecede, same, if_false, List.cons_append] at notBelow below
            exact absurd below notBelow

end Text

namespace Term

open Text

theorem toNat_ofNat_nextCode {letter : Char} (h : letter.toNat ≠ 0x10FFFF) :
    (Char.ofNat (nextCode letter.toNat)).toNat = nextCode letter.toNat := by
  have valid : letter.toNat.isValidChar := letter.valid
  have next : (nextCode letter.toNat).isValidChar := by
    unfold nextCode
    simp only [Nat.isValidChar] at valid ⊢
    split <;> omega
  simp only [Char.ofNat, next, dite_true]
  rfl

/-- No character lies between one and the next. -/
theorem nextCode_le {letter other : Char} (h : letter.toNat < other.toNat) :
    nextCode letter.toNat ≤ other.toNat := by
  have valid : other.toNat.isValidChar := other.valid
  unfold nextCode
  simp only [Nat.isValidChar] at valid
  split <;> omega

theorem lt_nextCode (code : Nat) : code < nextCode code := by
  unfold nextCode
  split <;> omega

/-- Between a letter and the next one lie the texts that begin with the letter. -/
theorem prefix_letter_iff {letter : Char} (h : letter.toNat ≠ 0x10FFFF) (text : List Char) :
    (¬ lettersPrecede text [letter] = true
        ∧ lettersPrecede text [Char.ofNat (nextCode letter.toNat)] = true)
      ↔ [letter] <+: text := by
  have next := toNat_ofNat_nextCode h
  cases text with
  | nil => simp [lettersPrecede]
  | cons one rest =>
      have apart : letter ≠ Char.ofNat (nextCode letter.toNat) := by
        intro same
        have := congrArg Char.toNat same
        have := lt_nextCode letter.toNat
        omega
      by_cases same : one = letter
      · subst same
        simp [lettersPrecede, apart, next, lt_nextCode]
      · have unequal : one.toNat ≠ letter.toNat := fun equal => same (Char.toNat_inj.mp equal)
        have noPrefix : ¬ [letter] <+: one :: rest := by
          simpa [List.cons_prefix_cons] using Ne.symm same
        simp only [noPrefix, iff_false, not_and]
        intro notBelow below
        simp only [lettersPrecede, same, if_false, decide_eq_true_eq, lettersPrecede_nil] at notBelow below
        split at below
        · simp at below
        · simp only [next, decide_eq_true_eq] at below
          have : nextCode letter.toNat ≤ one.toNat := nextCode_le (by omega)
          omega

/-- No letter follows the greatest one, so a text that is not before it begins with it. -/
theorem prefix_greatest_iff {letter : Char} (h : letter.toNat = 0x10FFFF) (text : List Char) :
    ¬ lettersPrecede text [letter] = true ↔ [letter] <+: text := by
  cases text with
  | nil => simp [lettersPrecede]
  | cons one rest =>
      by_cases same : one = letter
      · subst same
        simp [lettersPrecede]
      · have valid : one.toNat.isValidChar := one.valid
        have unequal : one.toNat ≠ letter.toNat := fun equal => same (Char.toNat_inj.mp equal)
        have below : one.toNat < letter.toNat := by
          simp only [Nat.isValidChar] at valid
          omega
        simpa [lettersPrecede, same, below, List.cons_prefix_cons] using Ne.symm same

/-- The range from a start, whose letters are listed from the last to the first, up to its successor. -/
theorem inRange_successorReversed (reversed term : List Char) :
    inRange reversed.reverse (successorReversed? reversed) term = true
      ↔ reversed.reverse <+: term := by
  induction reversed with
  | nil => simp [inRange, successorReversed?]
  | cons last before ih =>
      simp only [List.reverse_cons, successorReversed?]
      split
      · next greatest =>
        -- nothing follows a last letter that is the greatest, so the bound is that of the letters before
        constructor
        · intro inside
          simp only [inRange, Bool.and_eq_true, Bool.not_eq_true'] at inside ih
          have notBelow : lettersPrecede term before.reverse = false := by
            by_contra below
            have := lettersPrecede_continued (by simpa using below) [last]
            simp [this] at inside
          obtain ⟨rest, rfl⟩ := ih.mp ⟨notBelow, inside.2⟩
          rw [lettersPrecede_append] at inside
          exact (List.prefix_append_right_inj _).mpr
            ((prefix_greatest_iff greatest rest).mp (by simp [inside.1]))
        · rintro ⟨rest, rfl⟩
          have inside := ih.mpr ⟨last :: rest, by simp⟩
          simp only [inRange, Bool.and_eq_true, Bool.not_eq_true', List.append_assoc,
            List.cons_append, List.nil_append, lettersPrecede_append] at inside ⊢
          exact ⟨by simp [lettersPrecede], inside.2⟩
      · next notGreatest =>
        simp only [inRange, Option.all_some, Bool.and_eq_true, Bool.not_eq_true',
          ← Bool.not_eq_true]
        constructor
        · rintro ⟨notBelow, below⟩
          obtain ⟨rest, rfl⟩ := prefix_of_between notBelow below
          rw [lettersPrecede_append] at notBelow below
          exact (List.prefix_append_right_inj _).mpr
            ((prefix_letter_iff notGreatest rest).mp ⟨notBelow, below⟩)
        · intro start
          obtain ⟨rest, rfl⟩ := (List.prefix_append before.reverse [last]).trans start
          rw [lettersPrecede_append, lettersPrecede_append]
          exact (prefix_letter_iff notGreatest rest).mpr ((List.prefix_append_right_inj _).mp start)

/-- The terms from a start up to its successor are those that begin with the start. -/
@[simp] theorem inRange_successor (start term : Term) :
    inRange start (successor? start) term = true ↔ start <+: term := by
  simpa [successor?] using inRange_successorReversed start.reverse term

end Term

/-- An entry answers a query by the start of a term if one of its terms begins so. -/
theorem Query.selects_starting (entry : Entry) (field : Field) (start : Term) :
    (Query.starting field start).selects entry = true
      ↔ ∃ term ∈ entry.terms field, start <+: term := by
  simp [Query.starting, Query.selects, List.any_eq_true]

end Letterbox
