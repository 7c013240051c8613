import Letterbox.Text.LowerCase
import Letterbox.Text.Sentence
import Mathlib

/-!
# Lower case and context

The lower-case form of a text looks at context for the capital sigma only, and never past a character that
separates words or sentences. Main statements: a text is lower-cased apart on both sides of a separator, no
other character has a separator in its lower-case form, and a piece of a text has the lower-case form that
it has by itself if each capital sigma in it ends a word in the piece exactly if it does in the text.
-/

namespace Letterbox.Text

/-! ## The table of lower-case forms -/

/-- The distance to the lower-case form is none, or that of a range with the code point. -/
theorem caseShift_cases (code : Nat) (ranges : List CaseRange) :
    caseShift code ranges = 0
      ∨ ∃ range ∈ ranges, range.covers code = true ∧ caseShift code ranges = range.shift := by
  induction ranges with
  | nil => exact Or.inl rfl
  | cons range rest ih =>
      rw [caseShift]
      split
      · exact Or.inl rfl
      · split
        · next covered => exact Or.inr ⟨range, List.mem_cons_self, covered, rfl⟩
        · rcases ih with none | ⟨other, listed, covered, shift⟩
          · exact Or.inl none
          · exact Or.inr ⟨other, List.mem_cons_of_mem _ listed, covered, shift⟩

/-- Where a code point comes from, if a range has a lower-case form there. -/
def CaseRange.source? (range : CaseRange) (target : Nat) : Option Nat :=
  let code := (target : Int) - range.shift
  if 0 ≤ code ∧ range.covers code.toNat = true then some code.toNat else none

/-- The code point of a lower-case form lies at its distance. -/
theorem toNat_lowerSimple {letter : Char} (proper : (lowerSimple letter).toNat ≠ 0) :
    (letter.toNat : Int) + caseShift letter.toNat lowerRanges = (lowerSimple letter).toNat := by
  unfold lowerSimple at proper ⊢
  generalize (letter.toNat : Int) + caseShift letter.toNat lowerRanges = code at proper ⊢
  rw [Char.toNat_ofNat] at proper ⊢
  by_cases valid : code.toNat.isValidChar
  · rw [if_pos valid] at proper ⊢
    omega
  · exact absurd (if_neg valid) proper

/-- A lower-case form is the character itself, or a range leads there from the character. -/
theorem lowerSimple_source {letter : Char} (proper : (lowerSimple letter).toNat ≠ 0) :
    lowerSimple letter = letter
      ∨ ∃ range ∈ lowerRanges, range.source? (lowerSimple letter).toNat = some letter.toNat := by
  have target := toNat_lowerSimple proper
  rcases caseShift_cases letter.toNat lowerRanges with none | ⟨range, listed, covered, shift⟩
  · rw [none, Int.add_zero] at target
    exact Or.inl (Char.toNat_inj.mp (by omega))
  · refine Or.inr ⟨range, listed, ?_⟩
    have code : ((lowerSimple letter).toNat : Int) - range.shift = letter.toNat := by omega
    rw [CaseRange.source?]
    simp only [code, Int.toNat_natCast, covered, and_true, Int.natCast_nonneg, if_true]

theorem lowerSimple_of_unshifted {letter : Char} (unshifted : caseShift letter.toNat lowerRanges = 0) :
    lowerSimple letter = letter := by
  rw [lowerSimple, unshifted, Int.add_zero, Int.toNat_natCast, Char.ofNat_toNat]

/-- A letter at no distance, but for the two exceptions, is its own lower-case form wherever it stands. -/
theorem lowerLetter_of_unshifted {letter : Char} (sigma : letter ≠ 'Σ') (dotted : letter ≠ 'İ')
    (unshifted : caseShift letter.toNat lowerRanges = 0) (before after : List Char) :
    lowerLetter before letter after = [letter] := by
  rw [lowerLetter, if_neg (by simpa using sigma), if_neg (by simpa using dotted),
    lowerSimple_of_unshifted unshifted]

/-! ## Separators -/

/-- The characters that separate words or sentences. -/
def isSeparator (letter : Char) : Bool :=
  isBlank letter || closingMarks.contains letter

/-- Their code points. -/
def separatorCodes : List Nat :=
  [9, 10, 11, 12, 13, 0x20, 0x85, 0xA0, 0x1680, 0x2000, 0x2001, 0x2002, 0x2003, 0x2004, 0x2005, 0x2006,
    0x2007, 0x2008, 0x2009, 0x200A, 0x2028, 0x2029, 0x202F, 0x205F, 0x3000]
    ++ closingMarks.map Char.toNat

theorem mem_separatorCodes {letter : Char} (separates : isSeparator letter = true) :
    letter.toNat ∈ separatorCodes := by
  rw [isSeparator, Bool.or_eq_true] at separates
  rcases separates with blank | mark
  · refine List.mem_append_left _ ?_
    simp only [isBlank, Bool.or_eq_true, Bool.and_eq_true, decide_eq_true_eq, beq_iff_eq] at blank
    simp only [List.mem_cons, List.not_mem_nil, or_false]
    omega
  · exact List.mem_append_right _ (List.mem_map_of_mem (List.contains_iff_mem.mp mark))

/-- No range leads to a code point. -/
def isSourceless (code : Nat) : Bool :=
  lowerRanges.all fun range => range.source? code == none

/-- What the tables say of a code point that separates. -/
def isApart (code : Nat) : Bool :=
  ! inRanges code caseIgnorableRanges && ! inRanges code casedRanges
    && caseShift code lowerRanges == 0 && isSourceless code

theorem separatorCodes_apart : separatorCodes.all isApart = true := by
  decide +kernel

/-- A separator ends what word-final rules look at, and it is its own lower-case form. -/
structure IsBarrier (letter : Char) : Prop where
  notIgnorable : isCaseIgnorable letter = false
  notCased : isCased letter = false
  same : ∀ before after, lowerLetter before letter after = [letter]

theorem isBarrier_of_isSeparator {letter : Char} (separates : isSeparator letter = true) :
    IsBarrier letter := by
  have apart := List.all_eq_true.mp separatorCodes_apart _ (mem_separatorCodes separates)
  simp only [isApart, Bool.and_eq_true, Bool.not_eq_true', beq_iff_eq] at apart
  obtain ⟨⟨⟨notIgnorable, notCased⟩, unshifted⟩, -⟩ := apart
  refine ⟨notIgnorable, notCased, lowerLetter_of_unshifted ?_ ?_ unshifted⟩
  · rintro rfl
    exact absurd separates (by decide)
  · rintro rfl
    exact absurd separates (by decide)

/-- A character to which no range leads is in the lower-case form of no other one, if it is none of those
that make the exceptions. -/
theorem eq_of_mem_lowerLetter_of_isSourceless {before after : List Char} {letter lowered : Char}
    (listed : lowered ∈ lowerLetter before letter after) (proper : lowered.toNat ≠ 0)
    (sourceless : isSourceless lowered.toNat = true) (regular : lowered ∉ ['ς', 'σ', 'i', '\u0307']) :
    lowered = letter := by
  unfold lowerLetter at listed
  split at listed
  · obtain rfl := List.mem_singleton.mp listed
    split at regular <;> simp at regular
  · split at listed
    · simp only [List.mem_cons, List.not_mem_nil, or_false] at listed
      rcases listed with rfl | rfl <;> simp at regular
    · obtain rfl := List.mem_singleton.mp listed
      rcases lowerSimple_source proper with same | ⟨range, member, source⟩
      · exact same
      · have none := List.all_eq_true.mp sourceless range member
        rw [beq_iff_eq] at none
        rw [none] at source
        simp at source

/-- A separator is in the lower-case form of no other character. -/
theorem eq_of_mem_lowerLetter {before after : List Char} {letter lowered : Char}
    (listed : lowered ∈ lowerLetter before letter after) (separates : isSeparator lowered = true) :
    lowered = letter := by
  have code := mem_separatorCodes separates
  have apart := List.all_eq_true.mp separatorCodes_apart _ code
  simp only [isApart, Bool.and_eq_true] at apart
  refine eq_of_mem_lowerLetter_of_isSourceless listed ?_ apart.2 ?_
  · intro zero
    rw [zero] at code
    exact absurd code (by decide)
  · intro special
    simp only [List.mem_cons, List.not_mem_nil, or_false] at special
    rcases special with rfl | rfl | rfl | rfl <;> exact absurd separates (by decide)

/-- A character with these properties is in the lower-case form of a text only if it is in the text. -/
theorem mem_of_mem_lowerAfter {before text : List Char} {lowered : Char}
    (listed : lowered ∈ lowerAfter before text) (proper : lowered.toNat ≠ 0)
    (sourceless : isSourceless lowered.toNat = true) (regular : lowered ∉ ['ς', 'σ', 'i', '\u0307']) :
    lowered ∈ text := by
  induction text generalizing before with
  | nil => simp [lowerAfter] at listed
  | cons letter rest ih =>
      rw [lowerAfter, List.mem_append] at listed
      rcases listed with here | later
      · rw [eq_of_mem_lowerLetter_of_isSourceless here proper sourceless regular]
        exact List.mem_cons_self
      · exact List.mem_cons_of_mem _ (ih later)

/-- A letter that is its own lower-case form wherever it stands stays in the text. -/
theorem mem_lowerAfter_of_alone {before text : List Char} {letter : Char}
    (alone : ∀ before after, lowerLetter before letter after = [letter]) (listed : letter ∈ text) :
    letter ∈ lowerAfter before text := by
  induction text generalizing before with
  | nil => simp at listed
  | cons first rest ih =>
      rw [lowerAfter, List.mem_append]
      rcases List.mem_cons.mp listed with rfl | later
      · rw [alone]
        exact Or.inl List.mem_cons_self
      · exact Or.inr (ih later)

/-! ## Contexts -/

section Contexts

variable {bar : Char} (barrier : IsBarrier bar)

theorem lowerLetter_congr {before other after later : List Char}
    (same : meetsCased before = meetsCased other) (alike : meetsCased after = meetsCased later)
    (letter : Char) : lowerLetter before letter after = lowerLetter other letter later := by
  rw [lowerLetter, lowerLetter, same, alike]

theorem lowerAfter_congr {before other : List Char} (same : meetsCased before = meetsCased other)
    (text : List Char) : lowerAfter before text = lowerAfter other text := by
  induction text generalizing before other with
  | nil => rfl
  | cons letter rest ih =>
      have further : meetsCased (letter :: before) = meetsCased (letter :: other) := by
        rw [meetsCased, meetsCased, same]
      rw [lowerAfter, lowerAfter, lowerLetter_congr same rfl letter, ih further]

include barrier

theorem IsBarrier.meetsCased_cons (text : List Char) : meetsCased (bar :: text) = false := by
  simp [meetsCased, barrier.notIgnorable, barrier.notCased]

/-- Word-final rules do not look past a barrier. -/
theorem IsBarrier.meetsCased_append (first rest : List Char) :
    meetsCased (first ++ bar :: rest) = meetsCased first := by
  induction first with
  | nil => exact barrier.meetsCased_cons rest
  | cons letter others ih => rw [List.cons_append, meetsCased, meetsCased, ih]

/-- Behind a barrier a text starts anew. -/
theorem IsBarrier.lowerAfter_cons (before text : List Char) :
    lowerAfter before (bar :: text) = bar :: lower text := by
  have anew : meetsCased (bar :: before) = meetsCased [] := barrier.meetsCased_cons before
  rw [lowerAfter, barrier.same, lowerAfter_congr anew]
  rfl

end Contexts

/-! ## Pieces of a text -/

/-- The lower-case form of a text between the reversed text before it and the text after it. -/
def lowerBetween (before after : List Char) : List Char → List Char
  | [] => []
  | letter :: rest => lowerLetter before letter (rest ++ after) ++ lowerBetween (letter :: before) after rest

theorem lowerAfter_append (before text after : List Char) :
    lowerAfter before (text ++ after)
      = lowerBetween before after text ++ lowerAfter (text.reverse ++ before) after := by
  induction text generalizing before with
  | nil => rfl
  | cons letter rest ih =>
      rw [List.cons_append, lowerAfter, ih, lowerBetween, List.append_assoc, List.reverse_cons,
        List.append_assoc]
      rfl

/-- Whether a capital sigma between the reversed text before it and the text after it ends a word. -/
def endsWord (before after : List Char) : Bool :=
  meetsCased before && ! meetsCased after

/-- Each capital sigma of a piece ends a word in the piece exactly if it does in the text around it. -/
def KeepsSigmas (before piece after : List Char) : Prop :=
  ∀ first second, piece = first ++ 'Σ' :: second →
    endsWord (before ++ first).reverse (second ++ after) = endsWord first.reverse second

/-- The condition asks about each place of a sigma. -/
theorem keepsSigmas_iff {before piece after : List Char} :
    KeepsSigmas before piece after ↔ ∀ place < piece.length, piece[place]? = some 'Σ' →
      endsWord (before ++ piece.take place).reverse (piece.drop (place + 1) ++ after)
        = endsWord (piece.take place).reverse (piece.drop (place + 1)) := by
  constructor
  · intro keeps place inside sigma
    obtain ⟨_, letter⟩ := List.getElem?_eq_some_iff.mp sigma
    refine keeps _ _ ?_
    rw [← letter, ← List.drop_eq_getElem_cons inside, List.take_append_drop]
  · rintro places first second rfl
    have there := places first.length (by simp) (by simp)
    rwa [List.take_left, ← List.drop_drop, List.drop_left, List.drop_one, List.tail_cons] at there

instance (before piece after : List Char) : Decidable (KeepsSigmas before piece after) :=
  decidable_of_iff _ keepsSigmas_iff.symm

/-- Such a piece is lower-cased as it is by itself; `passed` is what was lower-cased of it already. -/
theorem lowerBetween_eq {before passed piece after : List Char}
    (keeps : ∀ first second, piece = first ++ 'Σ' :: second →
      endsWord (before ++ passed ++ first).reverse (second ++ after)
        = endsWord (passed ++ first).reverse second) :
    lowerBetween (before ++ passed).reverse after piece = lowerAfter passed.reverse piece := by
  induction piece generalizing passed with
  | nil => rfl
  | cons letter rest ih =>
      have head : lowerLetter (before ++ passed).reverse letter (rest ++ after)
          = lowerLetter passed.reverse letter rest := by
        by_cases sigma : letter = 'Σ'
        · subst sigma
          have same := keeps [] rest rfl
          rw [List.append_nil, List.append_nil, endsWord, endsWord] at same
          rw [lowerLetter, lowerLetter, same]
        · have other : ¬ (letter == 'Σ') = true := by simpa using sigma
          rw [lowerLetter, lowerLetter, if_neg other, if_neg other]
      have tail := @ih (passed ++ [letter]) fun first second split => by
        have same := keeps (letter :: first) second (by rw [split]; rfl)
        simpa using same
      rw [lowerBetween, lowerAfter, head]
      congr 1
      simpa using tail

theorem KeepsSigmas.lowerBetween_eq {before piece after : List Char}
    (keeps : KeepsSigmas before piece after) :
    lowerBetween before.reverse after piece = lower piece := by
  have whole := @Text.lowerBetween_eq before [] piece after fun first second split => by
    simpa using keeps first second split
  rwa [List.append_nil] at whole

/-- The lower-case form of a text contains that of such a piece. -/
theorem KeepsSigmas.isInfix {before piece after : List Char} (keeps : KeepsSigmas before piece after) :
    lower piece <:+: lower (before ++ piece ++ after) := by
  refine ⟨lowerBetween [] (piece ++ after) before, lowerAfter ((before ++ piece).reverse) after, ?_⟩
  rw [lower, lower, List.append_assoc before, lowerAfter_append [] before, lowerAfter_append _ piece,
    List.append_nil, keeps.lowerBetween_eq, List.append_assoc]
  simp [lower]

/-! ## Pieces between barriers -/

/-- A text ends, or a barrier comes. -/
def StopsAt (text : List Char) : Prop :=
  ∀ letter ∈ text.head?, IsBarrier letter

theorem stopsAt_nil : StopsAt [] := by
  intro letter none
  simp at none

theorem stopsAt_cons {bar : Char} (barrier : IsBarrier bar) (rest : List Char) : StopsAt (bar :: rest) := by
  intro letter head
  obtain rfl := Option.some.inj head
  exact barrier

theorem StopsAt.meetsCased_append {after : List Char} (stops : StopsAt after) (text : List Char) :
    meetsCased (text ++ after) = meetsCased text := by
  cases after with
  | nil => rw [List.append_nil]
  | cons bar rest => exact (stops bar rfl).meetsCased_append text rest

theorem keepsSigmas_of_stops {before piece after : List Char} (start : StopsAt before.reverse)
    (stop : StopsAt after) : KeepsSigmas before piece after := by
  intro first second _
  rw [endsWord, endsWord, List.reverse_append, start.meetsCased_append, stop.meetsCased_append]

end Letterbox.Text
