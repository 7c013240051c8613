import Letterbox.Proofs.SentencePass
import Letterbox.Proofs.Trimming

/-!
# Bounds of sentences

Segments are cut at line breaks and behind closing marks, and become sentences without the blanks they start with.
Main statement: nothing but blanks is left out of the sentences, each one goes on for as long as no such bound is
met, and they are the only pieces of the text of which this holds.
-/

namespace Letterbox.Text

/-- A text has no line break, and no closing mark before its last letter. -/
structure IsUncut (text : List Char) : Prop where
  unbroken : ∀ letter ∈ text, isLineBreak letter = false
  unmarked : ∀ letter ∈ text.dropLast, letter ∉ closingMarks

/-- The letter that stands behind `before` in a text lies in a piece of the text. -/
def Piece.Holds (piece : Piece) (before : List Char) (letter : Char) : Prop :=
  piece.offset ≤ byteSize before ∧ byteSize before + letter.utf8Size ≤ piece.stop

/--
Pieces are the sentences of a text: slices of it in order, each one uncut and with a first letter that is no blank.
Letters outside all of them are blanks. Two letters lie in one of them if the first one does and the text from the
first to the second is uncut.
-/
structure AreSentences (text : List Char) (found : List Piece) : Prop where
  ordered : found.Pairwise fun one other => one.stop ≤ other.offset
  stands : ∀ sentence ∈ found, sentence.StandsIn 0 text
  proper : ∀ sentence ∈ found, sentence.text ≠ []
  dark : ∀ sentence ∈ found, ∀ letter ∈ sentence.text.head?, isBlank letter = false
  uncut : ∀ sentence ∈ found, IsUncut sentence.text
  blank : ∀ before letter after, text = before ++ letter :: after →
    (∀ sentence ∈ found, ¬ sentence.Holds before letter) → isBlank letter = true
  joined : ∀ before first middle last after, text = before ++ first :: (middle ++ last :: after) →
    IsUncut (first :: (middle ++ [last])) →
    ∀ sentence ∈ found, sentence.Holds before first → sentence.Holds (before ++ first :: middle) last

variable {text first rest : List Char} {letter : Char} {sentence : Piece} {found others : List Piece}

/-! ## Uncut texts -/

theorem isUncut_nil : IsUncut [] :=
  ⟨by simp, by simp⟩

theorem isUncut_single (unbroken : isLineBreak letter = false) : IsUncut [letter] :=
  ⟨by simpa using unbroken, by simp⟩

/-- A text stays uncut with one more letter in front, if that is no bound. -/
theorem IsUncut.cons (uncut : IsUncut text) (unbroken : isLineBreak letter = false)
    (unmarked : letter ∉ closingMarks) : IsUncut (letter :: text) where
  unbroken := List.forall_mem_cons.mpr ⟨unbroken, uncut.unbroken⟩
  unmarked := by
    cases text with
    | nil => simp
    | cons next later =>
        rw [List.dropLast_cons_cons]
        exact List.forall_mem_cons.mpr ⟨unmarked, uncut.unmarked⟩

/-- A piece of an uncut text is uncut. -/
theorem IsUncut.of_isInfix (uncut : IsUncut text) (piece : first <:+: text) : IsUncut first where
  unbroken := fun letter listed => uncut.unbroken letter (piece.subset listed)
  unmarked := by
    intro letter listed
    refine uncut.unmarked letter ?_
    obtain ⟨before, after, rfl⟩ := piece
    rcases List.eq_nil_or_concat first with rfl | ⟨middle, last, rfl⟩
    · simp at listed
    · rw [List.concat_eq_append, List.dropLast_concat] at listed
      rw [List.concat_eq_append, List.append_assoc, List.append_assoc, List.singleton_append,
        List.dropLast_append_of_ne_nil (by simp), List.dropLast_append_of_ne_nil (by simp)]
      exact List.mem_append_right _ (List.mem_append_left _ listed)

/-! ## Segments -/

/-- A segment has a line break nowhere, and a closing mark at its end at most. -/
theorem isUncut_of_mem_segments {offset : Nat} {segment : Piece} (listed : segment ∈ segments offset text) :
    IsUncut segment.text := by
  induction text generalizing offset segment with
  | nil =>
      obtain rfl := List.mem_singleton.mp listed
      exact isUncut_nil
  | cons letter rest ih =>
      rw [segments_cons] at listed
      split at listed
      · rcases List.mem_cons.mp listed with rfl | later
        · exact isUncut_nil
        · exact ih later
      · next unbroken =>
        have unbroken : isLineBreak letter = false := Bool.eq_false_of_not_eq_true unbroken
        split at listed
        · rcases List.mem_cons.mp listed with rfl | later
          · exact isUncut_single unbroken
          · exact ih later
        · next unmarked =>
          rcases List.mem_cons.mp listed with rfl | later
          · have start : ⟨_, (cutSegments (offset + letter.utf8Size) rest).1⟩
                ∈ segments (offset + letter.utf8Size) rest := List.mem_cons_self
            exact (ih start).cons unbroken (by simpa using unmarked)
          · exact ih (List.mem_cons_of_mem _ later)

/-- The first segment goes on for as long as the text is uncut. -/
theorem isPrefix_cutSegments (uncut : IsUncut first) (offset : Nat) (rest : List Char) :
    first <+: (cutSegments offset (first ++ rest)).1 := by
  induction first generalizing offset with
  | nil => exact List.nil_prefix
  | cons letter others ih =>
      have later : IsUncut others := uncut.of_isInfix (List.suffix_cons letter others).isInfix
      rw [List.cons_append, cutSegments_cons]
      simp only [uncut.unbroken letter List.mem_cons_self, Bool.false_eq_true, if_false]
      split
      · next mark =>
        -- the mark is the last letter
        cases others with
        | nil => exact List.prefix_rfl
        | cons next more => exact absurd (by simpa using mark) (uncut.unmarked letter (by simp))
      · exact List.cons_prefix_cons.mpr ⟨rfl, ih later _⟩

/-- Wherever one starts to read, one reads up to the end of a segment of the whole text. -/
theorem exists_segment_append (offset : Nat) (before rest : List Char) :
    ∃ segment ∈ segments offset (before ++ rest), ∃ front,
      segment.text = front ++ (cutSegments (offset + byteSize before) rest).1
        ∧ segment.offset + byteSize front = offset + byteSize before := by
  induction before generalizing offset with
  | nil => exact ⟨_, List.mem_cons_self, [], rfl, rfl⟩
  | cons letter others ih =>
      obtain ⟨segment, listed, front, form, place⟩ := ih (offset + letter.utf8Size)
      rw [byteSize, ← Nat.add_assoc, List.cons_append, segments_cons]
      split
      · exact ⟨segment, List.mem_cons_of_mem _ listed, front, form, place⟩
      · split
        · exact ⟨segment, List.mem_cons_of_mem _ listed, front, form, place⟩
        · rcases List.mem_cons.mp listed with rfl | later
          · refine ⟨_, List.mem_cons_self, letter :: front, congrArg (letter :: ·) form, ?_⟩
            rw [byteSize, ← Nat.add_assoc]
            exact place
          · exact ⟨segment, List.mem_cons_of_mem _ later, front, form, place⟩

/-- An uncut part of a text lies in one segment. -/
theorem exists_segment_of_isUncut (uncut : IsUncut first) (before rest : List Char) :
    ∃ segment ∈ segments 0 (before ++ (first ++ rest)), ∃ front back,
      segment.text = front ++ (first ++ back) ∧ segment.offset + byteSize front = byteSize before := by
  obtain ⟨segment, listed, front, form, place⟩ := exists_segment_append 0 before (first ++ rest)
  obtain ⟨back, start⟩ := isPrefix_cutSegments uncut (0 + byteSize before) rest
  exact ⟨segment, listed, front, back, by rw [form, start], by rw [place, Nat.zero_add]⟩

/-! ## Places of pieces -/

theorem Piece.offset_lt_stop {piece : Piece} (proper : piece.text ≠ []) : piece.offset < piece.stop :=
  Nat.lt_add_of_pos_right (byteSize_pos proper)

/-- Pieces that come in order do not share a place. -/
theorem eq_of_shared_place (ordered : found.Pairwise fun one other => one.stop ≤ other.offset) {one other : Piece}
    (mine : one ∈ found) (theirs : other ∈ found) {place : Nat} (within : one.offset ≤ place ∧ place < one.stop)
    (alike : other.offset ≤ place ∧ place < other.stop) : one = other := by
  by_contra different
  have apart : found.Pairwise fun one other => one.stop ≤ other.offset ∨ other.stop ≤ one.offset :=
    ordered.imp Or.inl
  have : Std.Symm fun one other : Piece => one.stop ≤ other.offset ∨ other.stop ≤ one.offset :=
    ⟨fun _ _ => Or.symm⟩
  have ends := apart.forall mine theirs different
  omega

/-- A text is cut in one way only into parts with given numbers of bytes. -/
theorem append_inj_of_byteSize {other later : List Char} (same : first ++ rest = other ++ later)
    (size : byteSize first = byteSize other) : first = other ∧ rest = later := by
  have none : ∀ more, byteSize more = 0 → more = [] := by
    intro more empty
    by_contra proper
    exact absurd empty (byteSize_pos proper).ne'
  rcases List.append_eq_append_iff.mp same with ⟨more, rfl, rfl⟩ | ⟨more, rfl, rfl⟩
  · rw [byteSize_append, Nat.left_eq_add] at size
    simp [none more size]
  · rw [byteSize_append, Nat.add_eq_left] at size
    simp [none more size]

/-- A piece is known by where in its text it starts and stops. -/
theorem Piece.StandsIn.eq_of_place {start : Nat} {one other : Piece} (stands : one.StandsIn start text)
    (alike : other.StandsIn start text) (offset : one.offset = other.offset) (stop : one.stop = other.stop) :
    one = other := by
  obtain ⟨before, after, split, place⟩ := stands
  obtain ⟨front, back, whole, place'⟩ := alike
  rw [split, List.append_assoc, List.append_assoc] at whole
  rw [Piece.stop, Piece.stop, offset, Nat.add_left_cancel_iff] at stop
  have texts : one.text = other.text :=
    (append_inj_of_byteSize (append_inj_of_byteSize whole (by omega)).2 stop).1
  cases one
  cases other
  exact congrArg₂ Piece.mk offset texts

/-! ## Sentences -/

/-- A letter that is no blank lies in a sentence. -/
theorem exists_sentence_of_dark (dark : isBlank letter = false) (before after : List Char) :
    ∃ sentence ∈ sentences (before ++ letter :: after), sentence.Holds before letter := by
  have unbroken : isLineBreak letter = false :=
    Bool.eq_false_of_not_eq_true fun breaks => by simp [isBlank_of_isLineBreak breaks] at dark
  obtain ⟨segment, cut, front, back, form, place⟩ :=
    exists_segment_of_isUncut (isUncut_single unbroken) before after
  have trimmed : segment.trimStart.text = trimStart front ++ letter :: back := by
    rw [Piece.trimStart, form]
    exact trimStart_append_dark dark front back
  refine ⟨segment.trimStart, mem_sentences_iff.mpr ⟨by simp [trimmed], segment, cut, rfl⟩, ?_⟩
  -- from the letter on nothing is trimmed, and both end at one place
  have stop := segment.stop_trimStart
  simp only [Piece.Holds, Piece.stop, trimmed, form, byteSize_append, byteSize] at stop ⊢
  omega

/-- Two letters lie in one sentence if the first one does and the text from the first to the second is uncut. -/
theorem holds_of_isUncut {before middle after : List Char} {head last : Char}
    (listed : sentence ∈ sentences (before ++ head :: (middle ++ last :: after)))
    (uncut : IsUncut (head :: (middle ++ [last]))) (holds : sentence.Holds before head) :
    sentence.Holds (before ++ head :: middle) last := by
  have whole : before ++ head :: (middle ++ last :: after)
      = before ++ ((head :: (middle ++ [last])) ++ after) := by simp
  rw [whole] at listed
  obtain ⟨-, segment, cut, rfl⟩ := mem_sentences_iff.mp listed
  obtain ⟨other, found, front, back, form, place⟩ := exists_segment_of_isUncut uncut before after
  have stop : other.stop = other.offset + byteSize other.text := rfl
  rw [form] at stop
  simp only [byteSize_append, byteSize] at stop
  obtain ⟨start, ends⟩ := holds
  rw [segment.stop_trimStart] at ends
  have trimmed := segment.standsIn_trimStart.start_le
  have size := head.utf8Size_pos
  -- the segment of the sentence and the one of the uncut letters share the place of the first letter
  have within : segment.offset ≤ byteSize before ∧ byteSize before < segment.stop := by omega
  have alike : other.offset ≤ byteSize before ∧ byteSize before < other.stop := by omega
  obtain rfl : segment = other := eq_of_shared_place (ordered_segments 0 _) cut found within alike
  simp only [Piece.Holds, segment.stop_trimStart, byteSize_append, byteSize]
  omega

theorem areSentences_sentences (text : List Char) : AreSentences text (sentences text) where
  ordered := ordered_sentences text
  stands := fun _ => standsIn_of_mem_sentences
  proper := fun _ => ne_nil_of_mem_sentences
  dark := by
    intro sentence listed
    obtain ⟨-, segment, -, rfl⟩ := mem_sentences_iff.mp listed
    exact dark_head_trimStart segment.text
  uncut := by
    intro sentence listed
    obtain ⟨-, segment, cut, rfl⟩ := mem_sentences_iff.mp listed
    exact (isUncut_of_mem_segments cut).of_isInfix (List.dropWhile_suffix isBlank).isInfix
  blank := by
    rintro before letter after rfl outside
    by_contra dark
    obtain ⟨sentence, listed, holds⟩ := exists_sentence_of_dark (Bool.eq_false_of_not_eq_true dark) before after
    exact outside sentence listed holds
  joined := by
    rintro before head middle last after rfl uncut sentence listed
    exact holds_of_isUncut listed uncut

/-! ## No other pieces -/

namespace AreSentences

/-- An uncut piece of the text whose first letter is no blank lies in a sentence. -/
theorem exists_around (areSentences : AreSentences text found) {piece : Piece} (stands : piece.StandsIn 0 text)
    (proper : piece.text ≠ []) (dark : ∀ letter ∈ piece.text.head?, isBlank letter = false)
    (uncut : IsUncut piece.text) :
    ∃ sentence ∈ found, sentence.offset ≤ piece.offset ∧ piece.stop ≤ sentence.stop := by
  obtain ⟨before, after, split, offset⟩ := stands
  obtain ⟨head, rest, form⟩ := List.exists_cons_of_ne_nil proper
  rw [Nat.zero_add] at offset
  rw [Piece.stop, offset]
  rw [form] at split dark uncut ⊢
  obtain ⟨sentence, listed, holds⟩ : ∃ sentence ∈ found, sentence.Holds before head := by
    by_contra none
    push Not at none
    have blank := areSentences.blank before head (rest ++ after) (by simp [split]) none
    rw [dark head rfl] at blank
    exact Bool.noConfusion blank
  refine ⟨sentence, listed, holds.1, ?_⟩
  -- the sentence goes on to the last letter of the piece
  rcases List.eq_nil_or_concat rest with rfl | ⟨middle, last, rfl⟩
  · exact holds.2
  · rw [List.concat_eq_append] at split uncut ⊢
    obtain ⟨-, ends⟩ :=
      areSentences.joined before head middle last after (by simp [split]) uncut sentence listed holds
    simp only [byteSize_append, byteSize] at ends ⊢
    omega

variable (one : AreSentences text found) (two : AreSentences text others)

include one

theorem nodup : found.Nodup := by
  refine one.ordered.imp_of_mem ?_
  rintro sentence other listed - ends rfl
  exact absurd ends (Nat.not_le.mpr (Piece.offset_lt_stop (one.proper sentence listed)))

include two

/-- Around each sentence lies one of the other list, and around that one a sentence, which is the same. -/
theorem mem_of_mem (listed : sentence ∈ found) : sentence ∈ others := by
  obtain ⟨other, present, start, stop⟩ := two.exists_around (one.stands sentence listed)
    (one.proper sentence listed) (one.dark sentence listed) (one.uncut sentence listed)
  obtain ⟨around, among, earlier, later⟩ := one.exists_around (two.stands other present)
    (two.proper other present) (two.dark other present) (two.uncut other present)
  have proper := Piece.offset_lt_stop (one.proper sentence listed)
  have within : around.offset ≤ sentence.offset ∧ sentence.offset < around.stop := by omega
  obtain rfl : sentence = around :=
    eq_of_shared_place one.ordered listed among ⟨Nat.le_refl _, proper⟩ within
  have same : sentence = other :=
    (one.stands sentence listed).eq_of_place (two.stands other present) (by omega) (by omega)
  exact same ▸ present

/-- A text has no two lists of sentences. -/
theorem unique : found = others := by
  have perm : found.Perm others := (List.perm_ext_iff_of_nodup one.nodup two.nodup).mpr fun sentence =>
    ⟨one.mem_of_mem two, two.mem_of_mem one⟩
  refine perm.eq_of_pairwise ?_ one.ordered two.ordered
  intro sentence other listed present ends behind
  -- of two sentences only one comes before the other
  have proper := Piece.offset_lt_stop (one.proper sentence listed)
  have otherProper := Piece.offset_lt_stop (two.proper other present)
  omega

end AreSentences

/--
One pass over a text succeeds and gives its sentences. These are slices of the text at their offsets, in order and
apart. None is empty, starts with a blank or has a line break, and a closing mark is its last letter at most. All
letters outside of them are blanks. Two letters of which the first one lies in a sentence lie in the same one if there
is no line break from the first to the second and no closing mark before the second. No other pieces are so.
-/
theorem sentences_exact (text : List Char) :
    sentencesInPass? text = some (sentences text) ∧ AreSentences text (sentences text)
      ∧ ∀ others, AreSentences text others → others = sentences text :=
  ⟨sentencesInPass?_eq text, areSentences_sentences text,
    fun _ alike => alike.unique (areSentences_sentences text)⟩

/-- Line breaks in a row, marks in a row and a mark behind blanks; a period is no mark. -/
theorem sentences_exact_briefText :
    AreSentences "Ab,!\r\n  \u3000。é x\n\t".toList
        [⟨0, "Ab,".toList⟩, ⟨3, "!".toList⟩, ⟨11, "。".toList⟩, ⟨14, "é x".toList⟩]
      ∧ ¬ AreSentences "a.b".toList [⟨0, "a.".toList⟩, ⟨2, "b".toList⟩] := by
  have brief : sentences "Ab,!\r\n  \u3000。é x\n\t".toList
      = [⟨0, "Ab,".toList⟩, ⟨3, "!".toList⟩, ⟨11, "。".toList⟩, ⟨14, "é x".toList⟩] := by decide +kernel
  refine ⟨?_, fun cutThere => ?_⟩
  · rw [← brief]
    exact (sentences_exact _).2.1
  · have same := (sentences_exact _).2.2 _ cutThere
    exact absurd same (by decide +kernel)

end Letterbox.Text
