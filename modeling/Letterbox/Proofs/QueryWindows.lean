import Letterbox.Analysis
import Mathlib

/-!
# Windows of a value

A value that is longer than the longest token is looked up through windows of that length. Main statement:
the query terms of a value are its windows, and each window is a piece of the value.
-/

namespace Letterbox

open Text

/-- The number of characters from the start of one window to the start of the next. -/
def windowStep (longest : Nat) : Nat :=
  max (longest - 1) 1

/--
The windows of a value are its slices of `longest` characters, a step apart, and its last `longest`
characters. A value that is not longer than that is its own only window.
-/
def IsWindow (longest : Nat) (value window : List Char) : Prop :=
  (∃ turn, turn * windowStep longest + longest < value.length
      ∧ window = (value.drop (turn * windowStep longest)).take longest)
    ∨ window = value.drop (value.length - longest)

namespace IsWindow

variable {longest : Nat} {value window : List Char}

theorem isInfix (isWindow : IsWindow longest value window) : window <:+: value := by
  rcases isWindow with ⟨turn, -, rfl⟩ | rfl
  · exact (List.take_prefix _ _).isInfix.trans (List.drop_suffix _ _).isInfix
  · exact (List.drop_suffix _ _).isInfix

theorem length_eq (isWindow : IsWindow longest value window) :
    window.length = min longest value.length := by
  rcases isWindow with ⟨turn, inside, rfl⟩ | rfl
  · rw [List.length_take, List.length_drop]
    omega
  · rw [List.length_drop]
    omega

end IsWindow

/-- The windows from a start on begin there and a step apart, and the last one ends with the value. -/
theorem mem_windowsFrom {longest : Nat} {value window : List Char} {start : Nat} :
    window ∈ windowsFrom longest value start
      ↔ (∃ turn, start + turn * windowStep longest + longest < value.length
          ∧ window = (value.drop (start + turn * windowStep longest)).take longest)
        ∨ window = value.drop (value.length - longest) := by
  fun_induction windowsFrom longest value start with
  | case1 start inside ih =>
      have shifted : ∀ turn, start + (turn + 1) * windowStep longest
          = start + max (longest - 1) 1 + turn * windowStep longest := by
        intro turn
        rw [windowStep, Nat.succ_mul]
        omega
      rw [List.mem_cons, ih, ← or_assoc]
      refine or_congr_left ?_
      constructor
      · rintro (rfl | ⟨turn, before, rfl⟩)
        · exact ⟨0, by omega, by rw [Nat.zero_mul, Nat.add_zero]⟩
        · exact ⟨turn + 1, by rw [shifted]; exact before, by rw [shifted]⟩
      · rintro ⟨turn, before, rfl⟩
        cases turn with
        | zero => exact Or.inl (by rw [Nat.zero_mul, Nat.add_zero])
        | succ turn => exact Or.inr ⟨turn, by rw [← shifted]; exact before, by rw [shifted]⟩
  | case2 start outside =>
      have none : ¬ ∃ turn, start + turn * windowStep longest + longest < value.length
          ∧ window = (value.drop (start + turn * windowStep longest)).take longest := by
        rintro ⟨turn, before, -⟩
        omega
      rw [List.mem_singleton, or_iff_right none]

/-- What is looked up for a value are the windows of its lower-case form. -/
theorem Analysis.mem_queryTerms {shortest longest : Nat} {value term : List Char} :
    term ∈ (Analysis.substrings shortest longest).queryTerms value
      ↔ IsWindow longest (lower value) term := by
  rw [queryTerms]
  split
  · next short =>
    have none : ¬ ∃ turn, turn * windowStep longest + longest < (lower value).length
        ∧ term = ((lower value).drop (turn * windowStep longest)).take longest := by
      rintro ⟨turn, before, -⟩
      omega
    rw [List.mem_singleton, IsWindow, or_iff_right none, Nat.sub_eq_zero_of_le short, List.drop_zero]
  · simp only [mem_windowsFrom, Nat.zero_add, IsWindow]

end Letterbox
