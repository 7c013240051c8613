import Letterbox.Text.Blank
import Mathlib

/-!
# Trimmed texts

Trimming drops the blanks at both ends of a text and nothing else. A trimmed text neither starts nor ends with a
blank, and a text that does not is trimmed already.
-/

namespace Letterbox.Text

variable {text before after : List Char} {letter : Char}

theorem trimEnd_eq (text : List Char) : trimEnd text = (trimStart text.reverse).reverse :=
  rfl

/-! ## Letters that are no blanks -/

/-- The letters of a text that are no blanks. -/
def darkLetters (text : List Char) : List Char :=
  text.filter (! isBlank ·)

theorem darkLetters_ne_nil_iff : darkLetters text ≠ [] ↔ ∃ letter ∈ text, isBlank letter = false := by
  simp [darkLetters, List.filter_eq_nil_iff]

theorem darkLetters_reverse (text : List Char) : darkLetters text.reverse = (darkLetters text).reverse :=
  List.filter_reverse

theorem darkLetters_trimStart (text : List Char) : darkLetters (trimStart text) = darkLetters text := by
  induction text with
  | nil => rfl
  | cons letter rest ih =>
      by_cases blank : isBlank letter = true
      · rw [trimStart, List.dropWhile_cons_of_pos blank, ← trimStart, ih]
        simp [darkLetters, blank]
      · rw [trimStart, List.dropWhile_cons_of_neg blank]

theorem darkLetters_trim (text : List Char) : darkLetters (trim text) = darkLetters text := by
  rw [trim, trimEnd_eq, darkLetters_reverse, darkLetters_trimStart, darkLetters_reverse, List.reverse_reverse,
    darkLetters_trimStart]

theorem mem_trim_of_dark (dark : isBlank letter = false) (listed : letter ∈ text) : letter ∈ trim text := by
  have kept : letter ∈ darkLetters (trim text) := by
    rw [darkLetters_trim]
    exact List.mem_filter.mpr ⟨listed, by rw [dark]; rfl⟩
  exact (List.mem_filter.mp kept).1

/-! ## Ends without blanks -/

/-- A text neither starts nor ends with a blank. -/
structure IsTrimmed (text : List Char) : Prop where
  start : ∀ letter ∈ text.head?, isBlank letter = false
  stop : ∀ letter ∈ text.getLast?, isBlank letter = false

theorem dark_head_trimStart (text : List Char) : ∀ letter ∈ (trimStart text).head?, isBlank letter = false := by
  intro letter head
  have first := List.head?_dropWhile_not isBlank text
  rw [trimStart] at head
  rw [head] at first
  exact first

theorem isTrimmed_trim (text : List Char) : IsTrimmed (trim text) where
  start := by
    intro letter head
    obtain ⟨blanks, split⟩ := List.dropWhile_suffix (p := isBlank) (l := (trimStart text).reverse)
    have whole : trimStart text = trim text ++ blanks.reverse := by
      rw [trim, trimEnd, ← List.reverse_append, split, List.reverse_reverse]
    refine dark_head_trimStart text letter ?_
    rw [whole]
    exact List.mem_head?_append_of_mem_head? head
  stop := by
    intro letter last
    rw [trim, trimEnd_eq, List.getLast?_reverse] at last
    exact dark_head_trimStart _ letter last

theorem trimStart_of_dark_head (dark : ∀ letter ∈ text.head?, isBlank letter = false) : trimStart text = text := by
  cases text with
  | nil => rfl
  | cons letter rest => rw [trimStart, List.dropWhile_cons_of_neg (by simp [dark letter rfl])]

theorem trimEnd_of_dark_last (dark : ∀ letter ∈ text.getLast?, isBlank letter = false) : trimEnd text = text := by
  rw [trimEnd_eq, trimStart_of_dark_head, List.reverse_reverse]
  rwa [List.head?_reverse]

theorem IsTrimmed.trim_eq (trimmed : IsTrimmed text) : trim text = text := by
  rw [trim, trimStart_of_dark_head trimmed.start, trimEnd_of_dark_last trimmed.stop]

/-- A text without blanks is trimmed already. -/
theorem trim_of_dark (dark : ∀ letter ∈ text, isBlank letter = false) : trim text = text := by
  have trimmed : IsTrimmed text :=
    ⟨fun letter head => dark letter (List.mem_of_head? head),
      fun letter last => dark letter (List.mem_of_getLast? last)⟩
  exact trimmed.trim_eq

/-! ## Texts within texts -/

theorem trim_isInfix (text : List Char) : trim text <:+: text := by
  have front : trimEnd (trimStart text) <+: trimStart text := by
    rw [trimEnd, ← List.reverse_suffix, List.reverse_reverse]
    exact List.dropWhile_suffix _
  exact front.isInfix.trans (List.dropWhile_suffix _).isInfix

theorem mem_of_mem_trim (listed : letter ∈ trim text) : letter ∈ text :=
  (trim_isInfix text).subset listed

theorem trimStart_append (first rest : List Char) :
    trimStart (first ++ rest) = if trimStart first = [] then trimStart rest else trimStart first ++ rest := by
  by_cases blank : first.dropWhile isBlank = []
  · simp [trimStart, List.dropWhile_append, blank]
  · simp [trimStart, List.dropWhile_append, blank]

/-- Trimming stops at a letter that is no blank. -/
theorem trimStart_append_dark (dark : isBlank letter = false) (first rest : List Char) :
    trimStart (first ++ letter :: rest) = trimStart first ++ letter :: rest := by
  rw [trimStart_append]
  split
  · next none => rw [none, trimStart, List.dropWhile_cons_of_neg (by simp [dark]), List.nil_append]
  · rfl

theorem trimStart_eq_nil_iff : trimStart text = [] ↔ darkLetters text = [] := by
  rw [trimStart, List.dropWhile_eq_nil_iff, darkLetters, List.filter_eq_nil_iff]
  simp

/-- Between letters nothing is trimmed. -/
theorem trim_between (leading : darkLetters before ≠ []) (trailing : darkLetters after ≠ []) (middle : List Char) :
    trim (before ++ (middle ++ after)) = trimStart before ++ (middle ++ trimEnd after) := by
  have back : ¬ trimStart after.reverse = [] := by
    rw [trimStart_eq_nil_iff, darkLetters_reverse, List.reverse_eq_nil_iff]
    exact trailing
  rw [trim, trimStart_append, if_neg fun none => leading (trimStart_eq_nil_iff.mp none), trimEnd_eq,
    List.reverse_append, List.reverse_append, List.append_assoc, trimStart_append, if_neg back]
  simp [trimEnd_eq]

end Letterbox.Text
