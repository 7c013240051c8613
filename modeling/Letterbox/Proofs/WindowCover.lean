import Letterbox.Proofs.QueryWindows

/-!
# Windows that cover a value

The windows of a value are cut turn by turn, from numbers that must not go below zero, past the words of a machine or
out of the value. Main statement: every turn succeeds and there is a last one, the windows are slices of full length
that start a step apart or less, from the start of the value to its end, and so no character and, where windows have
room for two, no pair of neighbours is missed.
-/

namespace Letterbox

open Text

/-! ## Turn by turn -/

/-- A number, if a word holds it. -/
def word? (number : Nat) : Option Nat :=
  if number < 2 ^ 64 then some number else none

/-- A difference, if it is not below zero. -/
def difference? (number taken : Nat) : Option Nat :=
  if taken ≤ number then some (number - taken) else none

/-- The characters of a value between two places, if these are in order and within the value. -/
def slice? (value : List Char) (start stop : Nat) : Option (List Char) :=
  if start ≤ stop ∧ stop ≤ value.length then some ((value.drop start).take (stop - start)) else none

/-- What a turn gives: a window, and where the next turn starts if there is one. -/
structure Turn where
  window : List Char
  next : Option Nat
deriving DecidableEq, Repr

/-- A turn cuts a window back from where it stops, which is the end of the value at the latest. -/
def turn? (longest : Nat) (value : List Char) (start : Nat) : Option Turn := do
  let step := max (← difference? longest 1) 1
  let stop := min (← word? (start + longest)) value.length
  let window ← slice? value (← difference? stop longest) stop
  if stop = value.length then
    return ⟨window, none⟩
  return ⟨window, some (← word? (start + step))⟩

/-- The turns from a start on all succeed, the last one ends them, and these are their windows. -/
inductive Turns (longest : Nat) (value : List Char) : Nat → List (List Char) → Prop
  | last {start : Nat} {window : List Char} :
      turn? longest value start = some ⟨window, none⟩ → Turns longest value start [window]
  | next {start later : Nat} {window : List Char} {windows : List (List Char)} :
      turn? longest value start = some ⟨window, some later⟩ → Turns longest value later windows →
        Turns longest value start (window :: windows)

/-- No value has as many characters: each takes four bytes, and no block of memory has `2 ^ 63`. -/
def letterBound : Nat := 2 ^ 61

variable {longest start : Nat} {value : List Char} {windows others : List (List Char)}

theorem Turns.unique (one : Turns longest value start windows) (two : Turns longest value start others) :
    windows = others := by
  induction one generalizing others with
  | last ended =>
      cases two with
      | last again =>
          rw [ended, Option.some.injEq, Turn.mk.injEq] at again
          rw [again.1]
      | next again =>
          rw [ended] at again
          cases again
  | next going _ ih =>
      cases two with
      | last again =>
          rw [going] at again
          cases again
      | next again rest =>
          rw [going] at again
          cases again
          rw [ih rest]

section Turns

variable (positive : 1 ≤ longest) (long : longest < value.length) (bounded : value.length < letterBound)

include positive long bounded

/-- A turn that stops before the end of the value gives a window from its start. -/
theorem turn?_inside (inside : start + longest < value.length) :
    turn? longest value start
      = some ⟨(value.drop start).take longest, some (start + windowStep longest)⟩ := by
  have small : start + longest < 2 ^ 64 ∧ start + max (longest - 1) 1 < 2 ^ 64 := by
    rw [letterBound] at bounded
    omega
  have stop : min (start + longest) value.length = start + longest := Nat.min_eq_left (Nat.le_of_lt inside)
  simp only [turn?, difference?, if_pos positive, word?, if_pos small.1, if_pos small.2, stop, slice?,
    Option.bind_eq_bind, Option.bind_some, if_pos (Nat.le_add_left longest start), Nat.add_sub_cancel,
    if_pos (And.intro (Nat.le_add_right start longest) (Nat.le_of_lt inside)), Nat.add_sub_cancel_left,
    if_neg (Nat.ne_of_lt inside), Option.pure_def, windowStep]

/-- A turn that comes to the end of the value gives the window that ends there. -/
theorem turn?_outside (started : start < value.length) (outside : value.length ≤ start + longest) :
    turn? longest value start = some ⟨value.drop (value.length - longest), none⟩ := by
  have small : start + longest < 2 ^ 64 := by
    rw [letterBound] at bounded
    omega
  have within : longest ≤ value.length := Nat.le_of_lt long
  have slice : (value.drop (value.length - longest)).take longest = value.drop (value.length - longest) := by
    refine List.take_of_length_le ?_
    rw [List.length_drop]
    omega
  simp only [turn?, difference?, if_pos positive, word?, if_pos small, Nat.min_eq_right outside, slice?,
    Option.bind_eq_bind, Option.bind_some, if_pos within,
    if_pos (And.intro (Nat.sub_le value.length longest) (Nat.le_refl _)), Nat.sub_sub_self within, slice,
    if_true, Option.pure_def]

/-- The turns of a value give its windows. -/
theorem turns_windowsFrom (started : start < value.length) :
    Turns longest value start (windowsFrom longest value start) := by
  fun_induction windowsFrom longest value start with
  | case1 start inside ih =>
      have later : start + windowStep longest < value.length := by
        rw [windowStep]
        omega
      exact .next (turn?_inside positive long bounded inside) (ih later)
  | case2 start outside =>
      exact .last (turn?_outside positive long bounded started (Nat.not_lt.mp outside))

end Turns

/-! ## Where windows start -/

/-- The windows of a value with the places at which they start. -/
structure IsCover (longest : Nat) (value : List Char) (starts : List Nat) (windows : List (List Char)) : Prop where
  slices : windows = starts.map fun start => (value.drop start).take longest
  inside : ∀ start ∈ starts, start + longest ≤ value.length
  steps : starts.IsChain fun one next => one < next ∧ next ≤ one + windowStep longest
  last : starts.getLast? = some (value.length - longest)

/-- Windows that are cut from a place on start there, or where the last window does if that is before. -/
theorem exists_starts (long : longest < value.length) (start : Nat) :
    ∃ starts, IsCover longest value starts (windowsFrom longest value start)
      ∧ starts.head? = some (min start (value.length - longest)) := by
  fun_induction windowsFrom longest value start with
  | case1 start inside ih =>
      obtain ⟨starts, cover, head⟩ := ih
      refine ⟨start :: starts, ⟨?_, ?_, ?_, ?_⟩, ?_⟩
      · rw [List.map_cons, cover.slices]
      · rintro place (_ | ⟨_, later⟩)
        · exact Nat.le_of_lt inside
        · exact cover.inside place later
      · refine List.isChain_cons.mpr ⟨fun next first => ?_, cover.steps⟩
        rw [head, Option.mem_some_iff] at first
        rw [windowStep]
        omega
      · rw [List.getLast?_cons, cover.last, Option.getD_some]
      · rw [List.head?_cons, Nat.min_eq_left (by omega)]
  | case2 start outside =>
      refine ⟨[value.length - longest], ⟨?_, ?_, ?_, rfl⟩, ?_⟩
      · rw [List.map_singleton, List.take_of_length_le]
        rw [List.length_drop]
        omega
      · intro place listed
        rw [List.mem_singleton.mp listed]
        omega
      · exact .singleton _
      · rw [List.head?_singleton, Nat.min_eq_right (by omega)]

/-- Some windows hold each run of characters that is as much shorter than a window as two windows may lie apart. -/
theorem IsCover.exists_slice {starts : List Nat} {place room first : Nat} (cover : IsCover longest value starts windows)
    (fits : windowStep longest + room ≤ longest) (head : starts.head? = some first) (after : first ≤ place)
    (inside : place + room < value.length) :
    ∃ start ∈ starts, start ≤ place ∧ place + room < start + longest := by
  obtain ⟨-, -, steps, last⟩ := cover
  induction starts generalizing first with
  | nil => simp at head
  | cons start rest ih =>
      obtain rfl : start = first := by simpa using head
      by_cases held : place + room < start + longest
      · exact ⟨start, List.mem_cons_self, after, held⟩
      · obtain ⟨near, steps⟩ := List.isChain_cons.mp steps
        cases rest with
        | nil =>
            -- the last window goes up to the end of the value
            obtain rfl : start = value.length - longest := by simpa using last
            omega
        | cons second rest =>
            have step := near second rfl
            rw [List.getLast?_cons_cons] at last
            obtain ⟨found, listed, before, behind⟩ := ih rfl (by omega) steps last
            exact ⟨found, List.mem_cons_of_mem _ listed, before, behind⟩

/-! ## Query terms -/

namespace Analysis

variable {shortest : Nat}

/-- A value with room in one window is looked up as a whole. -/
theorem queryTerms_short (short : (lower value).length ≤ longest) :
    (substrings shortest longest).queryTerms value = [lower value] := by
  rw [queryTerms, if_pos short]

theorem queryTerms_long (long : longest < (lower value).length) :
    (substrings shortest longest).queryTerms value = windowsFrom longest (lower value) 0 := by
  rw [queryTerms, if_neg (Nat.not_le.mpr long)]

/-- Each run of characters with room enough lies in a term, which is a slice of the value. -/
theorem exists_term_of_place {place room : Nat} (fits : windowStep longest + room ≤ longest)
    (inside : place + room < (lower value).length) :
    ∃ start, ((lower value).drop start).take longest ∈ (substrings shortest longest).queryTerms value
      ∧ start ≤ place ∧ place + room < start + longest := by
  rcases Nat.lt_or_ge longest (lower value).length with long | short
  · obtain ⟨starts, cover, head⟩ := exists_starts long 0
    obtain ⟨start, listed, before, behind⟩ := cover.exists_slice fits head (by simp) inside
    rw [queryTerms_long long, cover.slices]
    exact ⟨start, List.mem_map_of_mem listed, before, behind⟩
  · refine ⟨0, ?_, Nat.zero_le _, by omega⟩
    rw [queryTerms_short short, List.drop_zero, List.take_of_length_le short]
    exact List.mem_singleton_self _

/--
A value with room in one window is its only term. Of a longer one the terms are slices of full length, cut in turns
that all succeed; they start at the start of the value, each one later than the one before and by no more than a step,
and end at its end. So every character lies in a term, and so do every two neighbours where there is room for two.
-/
theorem queryTerms_cover (positive : 1 ≤ longest) (shortest : Nat) (value : List Char) :
    (substrings shortest longest).queryTerms value ≠ []
      ∧ ((lower value).length ≤ longest → (substrings shortest longest).queryTerms value = [lower value])
      ∧ (longest < (lower value).length →
          (∃ starts, IsCover longest (lower value) starts ((substrings shortest longest).queryTerms value)
              ∧ starts.head? = some 0)
            ∧ (∀ term ∈ (substrings shortest longest).queryTerms value, term.length = longest)
            ∧ ((lower value).length < letterBound → ∀ windows, Turns longest (lower value) 0 windows
                ↔ windows = (substrings shortest longest).queryTerms value))
      ∧ (∀ place < (lower value).length, ∃ start,
          ((lower value).drop start).take longest ∈ (substrings shortest longest).queryTerms value
            ∧ start ≤ place ∧ place < start + longest)
      ∧ (2 ≤ longest → ∀ place, place + 1 < (lower value).length → ∃ start,
          ((lower value).drop start).take longest ∈ (substrings shortest longest).queryTerms value
            ∧ start ≤ place ∧ place + 1 < start + longest) := by
  have single : windowStep longest + 0 ≤ longest := by
    rw [windowStep]
    omega
  refine ⟨?_, queryTerms_short, fun long => ⟨?_, ?_, ?_⟩, ?_, ?_⟩
  · -- the window at the end of the value is always there
    exact List.ne_nil_of_mem (mem_queryTerms.mpr (Or.inr rfl))
  · rw [queryTerms_long long]
    simpa using exists_starts long 0
  · intro term listed
    rw [(mem_queryTerms.mp listed).length_eq, Nat.min_eq_left (Nat.le_of_lt long)]
  · intro bounded windows
    have turns := turns_windowsFrom positive long bounded (Nat.lt_of_le_of_lt (Nat.zero_le longest) long)
    rw [queryTerms_long long]
    constructor
    · intro others
      exact others.unique turns
    · rintro rfl
      exact turns
  · intro place inside
    exact exists_term_of_place single inside
  · intro room place inside
    refine exists_term_of_place ?_ inside
    rw [windowStep]
    omega

/-- A value of ten letters in windows of four: the third one goes back, to end with the value. -/
theorem queryTerms_cover_alphabet :
    1 ≤ 4 ∧ (substrings 3 4).queryTerms "Abcdefghij".toList = ["abcd".toList, "defg".toList, "ghij".toList]
      ∧ Turns 4 "abcdefghij".toList 0 ["abcd".toList, "defg".toList, "ghij".toList] := by
  have terms : (substrings 3 4).queryTerms "Abcdefghij".toList = ["abcd".toList, "defg".toList, "ghij".toList] := by
    cbv
  have lowered : lower "Abcdefghij".toList = "abcdefghij".toList := by cbv
  obtain ⟨-, -, long, -⟩ := queryTerms_cover (by decide : 1 ≤ 4) 3 "Abcdefghij".toList
  rw [lowered, terms] at long
  exact ⟨by decide, terms, ((long (by decide)).2.2 (by decide) _).mpr rfl⟩

end Analysis

end Letterbox
