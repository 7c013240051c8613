import Letterbox.Proofs.LowerContext

/-!
# Sentences and words of a text

A sentence is a piece of its text. Main statements: the sentences of the lower-case form of a text are the
lower-case forms of its sentences, each by itself; and the lower-case form of a text contains those of its
words.
-/

namespace Letterbox.Text

/-- One more letter in front of a text, and what becomes of its segments. -/
theorem cutSegments_cons (offset : Nat) (letter : Char) (rest : List Char) :
    cutSegments offset (letter :: rest)
      = let next := offset + letter.utf8Size
        let later := cutSegments next rest
        if isLineBreak letter then ([], ⟨next, later.1⟩ :: later.2)
        else if closingMarks.contains letter then ([letter], ⟨next, later.1⟩ :: later.2)
        else (letter :: later.1, later.2) :=
  rfl

/-! ## Pieces -/

theorem cutSegments_isInfix (offset : Nat) (text : List Char) :
    (cutSegments offset text).1 <+: text
      ∧ ∀ segment ∈ (cutSegments offset text).2, segment.text <:+: text := by
  induction text generalizing offset with
  | nil => exact ⟨List.nil_prefix, by simp [cutSegments]⟩
  | cons letter rest ih =>
      obtain ⟨first, others⟩ := ih (offset + letter.utf8Size)
      have later : ∀ segment ∈ (cutSegments (offset + letter.utf8Size) rest).2,
          segment.text <:+: letter :: rest :=
        fun segment listed => List.infix_cons (others segment listed)
      have cut : ∀ segment ∈ (⟨offset + letter.utf8Size, (cutSegments (offset + letter.utf8Size) rest).1⟩
          :: (cutSegments (offset + letter.utf8Size) rest).2 : List Piece),
          segment.text <:+: letter :: rest :=
        List.forall_mem_cons.mpr ⟨List.infix_cons first.isInfix, later⟩
      simp only [cutSegments_cons]
      split
      · exact ⟨List.nil_prefix, cut⟩
      · split
        · exact ⟨⟨rest, rfl⟩, cut⟩
        · exact ⟨List.cons_prefix_cons.mpr ⟨rfl, first⟩, later⟩

/-- A sentence is a piece of its text. -/
theorem isInfix_of_mem_sentences {sentence : Piece} {text : List Char}
    (listed : sentence ∈ sentences text) : sentence.text <:+: text := by
  obtain ⟨first, others⟩ := cutSegments_isInfix 0 text
  obtain ⟨segment, cut, rfl⟩ := List.mem_map.mp (List.mem_filter.mp listed).1
  have piece : segment.text <:+: text := by
    rcases List.mem_cons.mp cut with rfl | later
    · exact first.isInfix
    · exact others segment later
  exact (List.dropWhile_suffix isBlank).isInfix.trans piece

/-! ## Lower case -/

theorem isBlank_of_isLineBreak {letter : Char} (breaks : isLineBreak letter = true) : isBlank letter = true := by
  simp only [isLineBreak, Bool.or_eq_true, beq_iff_eq] at breaks
  rcases breaks with rfl | rfl
  · rfl
  · rfl

theorem isSeparator_of_mark {letter : Char} (mark : closingMarks.contains letter = true) :
    isSeparator letter = true := by
  rw [isSeparator, mark, Bool.or_true]

theorem isSeparator_of_isBlank {letter : Char} (blank : isBlank letter = true) :
    isSeparator letter = true := by
  rw [isSeparator, blank, Bool.true_or]

theorem isSeparator_of_isLineBreak {letter : Char} (breaks : isLineBreak letter = true) :
    isSeparator letter = true :=
  isSeparator_of_isBlank (isBlank_of_isLineBreak breaks)

/-- A letter that separates nothing goes on with its segment. -/
theorem cutSegments_cons_of_plain {letter : Char} (plain : ¬ isSeparator letter = true) (offset : Nat)
    (rest : List Char) :
    cutSegments offset (letter :: rest)
      = (letter :: (cutSegments (offset + letter.utf8Size) rest).1,
        (cutSegments (offset + letter.utf8Size) rest).2) := by
  have goesOn : ¬ isLineBreak letter = true := fun breaks => plain (isSeparator_of_isLineBreak breaks)
  have unmarked : ¬ closingMarks.contains letter = true := fun mark => plain (isSeparator_of_mark mark)
  rw [cutSegments_cons]
  simp only [goesOn, unmarked, Bool.false_eq_true, if_false]

/-- What word-final rules see of the text behind a letter lies in the same segment. -/
theorem meetsCased_cutSegments (offset : Nat) (text : List Char) :
    meetsCased (cutSegments offset text).1 = meetsCased text := by
  induction text generalizing offset with
  | nil => rfl
  | cons letter rest ih =>
      simp only [cutSegments_cons]
      split
      · next breaks =>
        have barrier := isBarrier_of_isSeparator (isSeparator_of_isLineBreak breaks)
        rw [barrier.meetsCased_cons]
        rfl
      · split
        · next mark =>
          have barrier := isBarrier_of_isSeparator (isSeparator_of_mark mark)
          rw [barrier.meetsCased_cons, barrier.meetsCased_cons]
        · rw [meetsCased, meetsCased, ih]

/-- Letters that separate nothing lengthen the first segment. -/
theorem cutSegments_append {first : List Char} (plain : ∀ letter ∈ first, ¬ isSeparator letter = true)
    (offset : Nat) (rest : List Char) :
    cutSegments offset (first ++ rest)
      = (first ++ (cutSegments (offset + byteSize first) rest).1,
        (cutSegments (offset + byteSize first) rest).2) := by
  induction first generalizing offset with
  | nil => rfl
  | cons letter others ih =>
      obtain ⟨own, later⟩ := List.forall_mem_cons.mp plain
      rw [List.cons_append, cutSegments_cons_of_plain own, ih later, byteSize, Nat.add_assoc]
      rfl

/-- The texts of segments, each by itself in lower case. -/
def lowerTexts (segments : List Piece) : List (List Char) :=
  segments.map fun segment => lower segment.text

/-- The segments of the lower-case form of a text are the lower-case forms of its segments. -/
theorem cutSegments_lowerAfter (before text : List Char) (offset other : Nat) :
    (cutSegments other (lowerAfter before text)).1 = lowerAfter before (cutSegments offset text).1
      ∧ (cutSegments other (lowerAfter before text)).2.map Piece.text
        = lowerTexts (cutSegments offset text).2 := by
  induction text generalizing before offset other with
  | nil => exact ⟨rfl, rfl⟩
  | cons letter rest ih =>
      by_cases separates : isSeparator letter = true
      · have barrier := isBarrier_of_isSeparator separates
        obtain ⟨first, others⟩ := ih [] (offset + letter.utf8Size) (other + letter.utf8Size)
        have anew : meetsCased [] = meetsCased (letter :: before) := (barrier.meetsCased_cons before).symm
        rw [barrier.lowerAfter_cons]
        simp only [cutSegments_cons]
        split
        · refine ⟨rfl, ?_⟩
          rw [List.map_cons, lowerTexts, List.map_cons]
          exact congrArg₂ List.cons first others
        · split
          · refine ⟨?_, ?_⟩
            · rw [barrier.lowerAfter_cons]
              rfl
            · rw [List.map_cons, lowerTexts, List.map_cons]
              exact congrArg₂ List.cons first others
          · refine ⟨?_, others⟩
            rw [barrier.lowerAfter_cons]
            exact congrArg (letter :: ·) first
      · -- the forms of a plain letter are plain, so they go on with its segment
        have plain : ∀ lowered ∈ lowerLetter before letter rest, ¬ isSeparator lowered = true := by
          intro lowered listed sep
          exact separates (eq_of_mem_lowerLetter listed sep ▸ sep)
        obtain ⟨first, others⟩ := ih (letter :: before) (offset + letter.utf8Size)
          (other + byteSize (lowerLetter before letter rest))
        rw [lowerAfter, cutSegments_append plain, cutSegments_cons_of_plain separates, first, lowerAfter,
          lowerLetter_congr rfl (meetsCased_cutSegments (offset + letter.utf8Size) rest) letter]
        exact ⟨rfl, others⟩

/-- A letter becomes one, except the dotted capital. -/
theorem lowerLetter_cases (before : List Char) (letter : Char) (after : List Char) :
    (∃ lowered, lowerLetter before letter after = [lowered])
      ∨ lowerLetter before letter after = ['i', '\u0307'] := by
  unfold lowerLetter
  split
  · exact Or.inl ⟨_, rfl⟩
  · split
    · exact Or.inr rfl
    · exact Or.inl ⟨_, rfl⟩

theorem lowerLetter_ne_nil (before : List Char) (letter : Char) (after : List Char) :
    lowerLetter before letter after ≠ [] := by
  rcases lowerLetter_cases before letter after with ⟨lowered, form⟩ | form
  · rw [form]
    exact List.cons_ne_nil _ _
  · rw [form]
    exact List.cons_ne_nil _ _

theorem lower_eq_nil {text : List Char} : lower text = [] ↔ text = [] := by
  cases text with
  | nil => simp [lower, lowerAfter]
  | cons letter rest => simp [lower, lowerAfter, lowerLetter_ne_nil]

/-- Leading blanks are the same in lower case. -/
theorem trimStart_lower (text : List Char) : trimStart (lower text) = lower (trimStart text) := by
  induction text with
  | nil => rfl
  | cons letter rest ih =>
      by_cases blank : isBlank letter = true
      · have barrier := isBarrier_of_isSeparator (isSeparator_of_isBlank blank)
        have start : lower (letter :: rest) = letter :: lower rest := barrier.lowerAfter_cons [] rest
        rw [start, trimStart, trimStart, List.dropWhile_cons_of_pos blank, List.dropWhile_cons_of_pos blank]
        exact ih
      · obtain ⟨head, others, form⟩ := List.exists_cons_of_ne_nil (lowerLetter_ne_nil [] letter rest)
        have dark : ¬ isBlank head = true := by
          intro light
          have listed : head ∈ lowerLetter [] letter rest := by
            rw [form]
            exact List.mem_cons_self
          exact blank (eq_of_mem_lowerLetter listed (isSeparator_of_isBlank light) ▸ light)
        rw [trimStart, trimStart, List.dropWhile_cons_of_neg blank, lower, lowerAfter, form,
          List.cons_append, List.dropWhile_cons_of_neg dark]

/-- Segments with the same texts, up to case, become sentences with the same texts. -/
theorem texts_of_segments {one other : List Piece} (same : one.map Piece.text = lowerTexts other) :
    ((one.map Piece.trimStart).filter (! ·.text.isEmpty)).map Piece.text
      = lowerTexts ((other.map Piece.trimStart).filter (! ·.text.isEmpty)) := by
  induction other generalizing one with
  | nil =>
      rw [List.map_eq_nil_iff.mp same]
      rfl
  | cons segment rest ih =>
      obtain ⟨lowered, others, rfl, form, later⟩ := List.map_eq_cons_iff.mp same
      have trimmed : lowered.trimStart.text = lower segment.trimStart.text := by
        simp only [Piece.trimStart, form, trimStart_lower]
      have empty : lowered.trimStart.text.isEmpty = segment.trimStart.text.isEmpty := by
        rw [trimmed, Bool.eq_iff_iff, List.isEmpty_iff, List.isEmpty_iff, lower_eq_nil]
      rw [List.map_cons, List.map_cons, List.filter_cons, List.filter_cons, empty]
      split
      · rw [List.map_cons, ih later, trimmed]
        rfl
      · exact ih later

/-- The sentences of the lower-case form of a text are the lower-case forms of its sentences. -/
theorem sentences_lower (text : List Char) :
    (sentences (lower text)).map Piece.text = lowerTexts (sentences text) := by
  obtain ⟨first, others⟩ := cutSegments_lowerAfter [] text 0 0
  refine texts_of_segments ?_
  rw [lowerTexts, List.map_cons, List.map_cons]
  exact congrArg₂ List.cons first others

/-- Each sentence of a text is, in lower case, a sentence of the lower-case form of the text. -/
theorem exists_sentence_lower {sentence : Piece} {text : List Char} (listed : sentence ∈ sentences text) :
    ∃ lowered ∈ sentences (lower text), lowered.text = lower sentence.text := by
  have member : lower sentence.text ∈ (sentences (lower text)).map Piece.text := by
    rw [sentences_lower]
    exact List.mem_map_of_mem listed
  exact List.mem_map.mp member

/-! ## Words -/

theorem cutWords_cons (offset : Nat) (letter : Char) (rest : List Char) :
    cutWords offset (letter :: rest)
      = let next := offset + letter.utf8Size
        let later := cutWords next rest
        if isBlank letter then ([], Piece.consNonempty ⟨next, later.1⟩ later.2)
        else (letter :: later.1, later.2) :=
  rfl

/-- The first word goes up to a blank or the end, and each other one starts behind a blank. -/
theorem cutWords_split (offset : Nat) (text : List Char) :
    (∃ after, text = (cutWords offset text).1 ++ after ∧ StopsAt after)
      ∧ ∀ word ∈ (cutWords offset text).2, ∃ before bar after,
        text = before ++ bar :: (word.text ++ after) ∧ IsBarrier bar ∧ StopsAt after := by
  induction text generalizing offset with
  | nil => exact ⟨⟨[], rfl, stopsAt_nil⟩, by simp [cutWords]⟩
  | cons letter rest ih =>
      obtain ⟨⟨behind, split, stop⟩, others⟩ := ih (offset + letter.utf8Size)
      have later : ∀ word ∈ (cutWords (offset + letter.utf8Size) rest).2, ∃ before bar after,
          letter :: rest = before ++ bar :: (word.text ++ after) ∧ IsBarrier bar ∧ StopsAt after := by
        intro word listed
        obtain ⟨before, bar, after, form, barrier, stop⟩ := others word listed
        exact ⟨letter :: before, bar, after, by rw [form]; rfl, barrier, stop⟩
      simp only [cutWords_cons]
      split
      · next blank =>
        have barrier := isBarrier_of_isSeparator (isSeparator_of_isBlank blank)
        refine ⟨⟨letter :: rest, rfl, stopsAt_cons barrier rest⟩, fun word listed => ?_⟩
        simp only [Piece.consNonempty] at listed
        split at listed
        · exact later word listed
        · rcases List.mem_cons.mp listed with rfl | listed
          · exact ⟨[], letter, behind, congrArg (letter :: ·) split, barrier, stop⟩
          · exact later word listed
      · exact ⟨⟨behind, congrArg (letter :: ·) split, stop⟩, later⟩

/-- A word is in lower case what it is in the lower-case form of its text. -/
theorem isInfix_lower_of_mem_words {word : Piece} {text : List Char} (listed : word ∈ words text) :
    lower word.text <:+: lower text := by
  obtain ⟨⟨after, split, stop⟩, others⟩ := cutWords_split 0 text
  have inner : word ∈ (cutWords 0 text).2 → lower word.text <:+: lower text := by
    intro later
    obtain ⟨before, bar, after, form, barrier, stop⟩ := others word later
    have start : StopsAt (before ++ [bar]).reverse := by
      rw [List.reverse_append]
      exact stopsAt_cons barrier before.reverse
    have whole : text = (before ++ [bar]) ++ word.text ++ after := by
      rw [form]
      simp
    rw [whole]
    exact (keepsSigmas_of_stops start stop).isInfix
  simp only [words, Piece.consNonempty] at listed
  split at listed
  · exact inner listed
  · rcases List.mem_cons.mp listed with rfl | later
    · have start : StopsAt ([] : List Char).reverse := stopsAt_nil
      have first : KeepsSigmas [] (cutWords 0 text).1 after := keepsSigmas_of_stops start stop
      have piece := first.isInfix
      rw [List.nil_append, ← split] at piece
      exact piece
    · exact inner later
end Letterbox.Text
