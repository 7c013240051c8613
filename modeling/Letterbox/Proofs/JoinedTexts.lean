import Letterbox.Proofs.SentencePlaces
import Letterbox.Proofs.Trimming

/-!
# Texts one behind the other

Sentences and words are pieces of a text between the letters that end them. Main statements: where one text stands
behind another, the last piece of the first goes on with the first piece of the second, and all other pieces stay;
so each sentence and each word of a text that stands in a list with commas starts one of the list, and each one of
a text behind a blank ends one of the whole.
-/

namespace Letterbox.Text

/-! ## Pieces -/

/-- The pieces of a text. Some letters end a piece; `ending` tells what of such a letter belongs to the piece. -/
def pieces (ending : Char → Option (List Char)) : List Char → List (List Char)
  | [] => [[]]
  | letter :: rest =>
    match ending letter with
    | some own => own :: pieces ending rest
    | none => (pieces ending rest).modifyHead (letter :: ·)

/-- The last piece of a text, which goes on with what stands behind the text. -/
def lastPiece (ending : Char → Option (List Char)) (text : List Char) : List Char :=
  (pieces ending text).getLastD []

section Pieces

variable {ending : Char → Option (List Char)} {first rest piece : List Char}

theorem pieces_cons_of_some {letter : Char} {own : List Char} (ends : ending letter = some own) :
    pieces ending (letter :: rest) = own :: pieces ending rest := by
  rw [pieces, ends]

theorem pieces_cons_of_none {letter : Char} (goesOn : ending letter = none) :
    pieces ending (letter :: rest) = (pieces ending rest).modifyHead (letter :: ·) := by
  rw [pieces, goesOn]

theorem pieces_ne_nil (ending : Char → Option (List Char)) (text : List Char) : pieces ending text ≠ [] := by
  induction text with
  | nil => exact List.cons_ne_nil _ _
  | cons letter rest ih =>
      cases ends : ending letter with
      | some own => simp [pieces_cons_of_some ends]
      | none => simpa [pieces_cons_of_none ends] using ih

/-- The last piece of a text goes on with the first one of the text behind it; all other pieces stay. -/
theorem pieces_append (ending : Char → Option (List Char)) (first rest : List Char) :
    pieces ending (first ++ rest)
      = (pieces ending first).dropLast ++ (pieces ending rest).modifyHead (lastPiece ending first ++ ·) := by
  induction first with
  | nil => exact (congrFun List.modifyHead_id (pieces ending rest)).symm
  | cons letter others ih =>
      obtain ⟨piece, later, form⟩ := List.exists_cons_of_ne_nil (pieces_ne_nil ending others)
      rw [lastPiece, form] at ih
      cases ends : ending letter with
      | some own =>
          rw [List.cons_append, lastPiece, pieces_cons_of_some ends, pieces_cons_of_some ends, ih, form]
          rfl
      | none =>
          rw [List.cons_append, lastPiece, pieces_cons_of_none ends, pieces_cons_of_none ends, ih, form]
          cases later with
          | nil =>
              rw [List.modifyHead_cons, List.dropLast_singleton, List.dropLast_singleton, List.nil_append,
                List.nil_append, List.modifyHead_modifyHead]
              rfl
          | cons next more => rfl

theorem dropLast_append_lastPiece (ending : Char → Option (List Char)) (text : List Char) :
    (pieces ending text).dropLast ++ [lastPiece ending text] = pieces ending text := by
  obtain ⟨piece, later, form⟩ := List.exists_cons_of_ne_nil (pieces_ne_nil ending text)
  rw [lastPiece, form, List.getLastD_cons, ← List.getLast_eq_getLastD (List.cons_ne_nil _ _)]
  exact List.dropLast_concat_getLast _

/-- Behind a letter that ends a piece, the last piece starts anew. -/
theorem lastPiece_append_cons {letter : Char} {own : List Char} (ends : ending letter = some own)
    (first rest : List Char) : lastPiece ending (first ++ letter :: rest) = lastPiece ending rest := by
  obtain ⟨piece, later, form⟩ := List.exists_cons_of_ne_nil (pieces_ne_nil ending rest)
  rw [lastPiece, lastPiece, pieces_append, pieces_cons_of_some ends, form]
  simp [List.getLast?_cons]

/-- A piece of the first text starts a piece of the whole. -/
theorem exists_append_mem_pieces (listed : piece ∈ pieces ending first) (rest : List Char) :
    ∃ more, (more = [] ∨ (pieces ending rest).head? = some more)
      ∧ piece ++ more ∈ pieces ending (first ++ rest) := by
  obtain ⟨next, later, form⟩ := List.exists_cons_of_ne_nil (pieces_ne_nil ending rest)
  rw [← dropLast_append_lastPiece] at listed
  rw [pieces_append, form, List.modifyHead_cons]
  rcases List.mem_append.mp listed with early | last
  · exact ⟨[], Or.inl rfl, by simp [early]⟩
  · obtain rfl := List.mem_singleton.mp last
    exact ⟨next, Or.inr rfl, by simp⟩

/-- A piece of the second text stays or goes on from the last piece of the first. -/
theorem mem_pieces_append (listed : piece ∈ pieces ending rest) (first : List Char) :
    piece ∈ pieces ending (first ++ rest) ∨ lastPiece ending first ++ piece ∈ pieces ending (first ++ rest) := by
  obtain ⟨next, later, form⟩ := List.exists_cons_of_ne_nil (pieces_ne_nil ending rest)
  rw [form] at listed
  rw [pieces_append, form, List.modifyHead_cons]
  rcases List.mem_cons.mp listed with rfl | behind
  · exact Or.inr (by simp)
  · exact Or.inl (by simp [behind])

end Pieces

/-! ## Sentences -/

/-- A closing mark ends a piece and belongs to it, and a line break ends one. -/
def sentenceEnding (letter : Char) : Option (List Char) :=
  if isLineBreak letter then some []
  else if closingMarks.contains letter then some [letter]
  else none

/-- Wherever a text starts, the texts of its segments are its pieces. -/
theorem texts_segments (offset : Nat) (text : List Char) :
    (segments offset text).map Piece.text = pieces sentenceEnding text := by
  induction text generalizing offset with
  | nil => rfl
  | cons letter rest ih =>
      rw [segments_cons, pieces, sentenceEnding, ← ih (offset + letter.utf8Size)]
      split
      · rfl
      · split
        · rfl
        · rfl

variable {first rest text : List Char} {sentence word : Piece}

/-- Sentences are the pieces without their leading blanks, where something is left of them. -/
theorem exists_sentence_iff {form : List Char} :
    (∃ sentence ∈ sentences text, sentence.text = form)
      ↔ form ≠ [] ∧ ∃ piece ∈ pieces sentenceEnding text, trimStart piece = form := by
  simp only [mem_sentences_iff, ← texts_segments 0, List.mem_map]
  constructor
  · rintro ⟨sentence, ⟨proper, segment, cut, rfl⟩, rfl⟩
    exact ⟨proper, segment.text, ⟨segment, cut, rfl⟩, rfl⟩
  · rintro ⟨proper, piece, ⟨segment, cut, rfl⟩, rfl⟩
    exact ⟨segment.trimStart, ⟨proper, segment, cut, rfl⟩, rfl⟩

/-- A sentence is what is left of a piece. -/
theorem exists_piece_of_sentence (listed : sentence ∈ sentences text) :
    sentence.text ≠ [] ∧ ∃ piece ∈ pieces sentenceEnding text, trimStart piece = sentence.text :=
  exists_sentence_iff.mp ⟨sentence, listed, rfl⟩

/-- A sentence of the first of two texts starts one of the whole. -/
theorem exists_sentence_starting (listed : sentence ∈ sentences first) (rest : List Char) :
    ∃ longer ∈ sentences (first ++ rest), sentence.text <+: longer.text := by
  obtain ⟨proper, piece, cut, trimmed⟩ := exists_piece_of_sentence listed
  obtain ⟨more, -, whole⟩ := exists_append_mem_pieces cut rest
  have form : trimStart (piece ++ more) = sentence.text ++ more := by
    rw [trimStart_append, if_neg (trimmed ▸ proper), trimmed]
  obtain ⟨longer, found, same⟩ := exists_sentence_iff.mpr ⟨by simp [proper], _, whole, form⟩
  exact ⟨longer, found, same ▸ List.prefix_append _ _⟩

/-- Behind a text whose last piece is blank, sentences stay as they are. -/
theorem exists_sentence_behind (listed : sentence ∈ sentences rest)
    (blank : trimStart (lastPiece sentenceEnding first) = []) :
    ∃ same ∈ sentences (first ++ rest), same.text = sentence.text := by
  obtain ⟨proper, piece, cut, trimmed⟩ := exists_piece_of_sentence listed
  rcases mem_pieces_append cut first with same | behind
  · exact exists_sentence_iff.mpr ⟨proper, piece, same, trimmed⟩
  · have form : trimStart (lastPiece sentenceEnding first ++ piece) = sentence.text := by
      rw [trimStart_append, if_pos blank, trimmed]
    exact exists_sentence_iff.mpr ⟨proper, _, behind, form⟩

/-! ## Words -/

/-- A blank ends a piece. -/
def wordEnding (letter : Char) : Option (List Char) :=
  if isBlank letter then some [] else none

/-- A piece in front of others has its text in front of theirs, unless it is empty. -/
theorem texts_consNonempty (piece : Piece) (others : List Piece) :
    (Piece.consNonempty piece others).map Piece.text
      = [piece.text].filter (! ·.isEmpty) ++ others.map Piece.text := by
  unfold Piece.consNonempty
  split
  · next empty => simp [empty]
  · next proper => simp [proper]

/-- The first word of a text, which may be empty, is its first piece; the others are the pieces that are not. -/
theorem texts_cutWords (offset : Nat) (text : List Char) :
    ∃ later, pieces wordEnding text = (cutWords offset text).1 :: later
      ∧ (cutWords offset text).2.map Piece.text = later.filter (! ·.isEmpty) := by
  induction text generalizing offset with
  | nil => exact ⟨[], rfl, rfl⟩
  | cons letter rest ih =>
      obtain ⟨later, form, texts⟩ := ih (offset + letter.utf8Size)
      simp only [cutWords_cons]
      split
      · next blank =>
        refine ⟨_, pieces_cons_of_some (if_pos blank), ?_⟩
        rw [texts_consNonempty, texts, form, ← List.filter_append]
        rfl
      · next dark =>
        refine ⟨later, ?_, texts⟩
        rw [pieces_cons_of_none (if_neg dark), form, List.modifyHead_cons]

/-- The words of a text are its pieces that are not empty. -/
theorem texts_words (text : List Char) :
    (words text).map Piece.text = (pieces wordEnding text).filter (! ·.isEmpty) := by
  obtain ⟨later, form, texts⟩ := texts_cutWords 0 text
  rw [words, texts_consNonempty, texts, form, ← List.filter_append]
  rfl

theorem exists_word_iff {form : List Char} :
    (∃ word ∈ words text, word.text = form) ↔ form ≠ [] ∧ form ∈ pieces wordEnding text := by
  rw [← List.mem_map, texts_words, List.mem_filter, and_comm]
  simp

/-- Behind a blank, words stay as they are. -/
theorem exists_word_behind (listed : word ∈ words rest) (anew : lastPiece wordEnding first = []) :
    ∃ same ∈ words (first ++ rest), same.text = word.text := by
  obtain ⟨proper, cut⟩ := exists_word_iff.mp ⟨word, listed, rfl⟩
  refine exists_word_iff.mpr ⟨proper, ?_⟩
  have whole := mem_pieces_append cut first
  rwa [anew, List.nil_append, or_self] at whole

/-- A word of the first of two texts starts one of the whole. -/
theorem exists_word_starting (listed : word ∈ words first) (rest : List Char) :
    ∃ more, (more = [] ∨ (pieces wordEnding rest).head? = some more)
      ∧ ∃ longer ∈ words (first ++ rest), longer.text = word.text ++ more := by
  obtain ⟨proper, cut⟩ := exists_word_iff.mp ⟨word, listed, rfl⟩
  obtain ⟨more, head, whole⟩ := exists_append_mem_pieces cut rest
  exact ⟨more, head, exists_word_iff.mpr ⟨by simp [proper], whole⟩⟩

/-! ## Lower case -/

/-- A text is lower-cased apart on both sides of a place where it stops. -/
theorem lower_append (first : List Char) (stops : StopsAt rest) :
    lower (first ++ rest) = lower first ++ lower rest := by
  have keeps : KeepsSigmas [] first rest := keepsSigmas_of_stops stopsAt_nil stops
  have apart : lowerAfter first.reverse rest = lower rest := by
    cases rest with
    | nil => rfl
    | cons bar later =>
        have barrier := stops bar rfl
        rw [barrier.lowerAfter_cons]
        exact (barrier.lowerAfter_cons [] later).symm
  rw [lower, lowerAfter_append, List.append_nil, apart]
  exact congrArg (· ++ lower rest) keeps.lowerBetween_eq

/-- Behind a separator a text is lower-cased as by itself. -/
theorem lower_append_cons {bar : Char} (barrier : IsBarrier bar) (first rest : List Char) :
    lower (first ++ bar :: rest) = lower first ++ bar :: lower rest := by
  rw [lower_append first (stopsAt_cons barrier rest)]
  exact congrArg (lower first ++ ·) (barrier.lowerAfter_cons [] rest)

/-- Where a text stops, so does its first word. -/
theorem StopsAt.head_piece {more : List Char} (stops : StopsAt rest)
    (head : (pieces wordEnding rest).head? = some more) : StopsAt more := by
  cases rest with
  | nil =>
      obtain rfl : [] = more := Option.some.inj head
      exact stopsAt_nil
  | cons letter others =>
      by_cases blank : isBlank letter = true
      · rw [pieces_cons_of_some (if_pos blank)] at head
        obtain rfl : [] = more := Option.some.inj head
        exact stopsAt_nil
      · obtain ⟨next, later, cut⟩ := List.exists_cons_of_ne_nil (pieces_ne_nil wordEnding others)
        rw [pieces_cons_of_none (if_neg blank), cut] at head
        obtain rfl : letter :: next = more := Option.some.inj head
        exact stopsAt_cons (stops letter rfl) next

/-! ## Texts with a space between -/

theorem isBarrier_comma : IsBarrier ',' :=
  isBarrier_of_isSeparator (by decide)

theorem isBarrier_space : IsBarrier ' ' :=
  isBarrier_of_isSeparator (by decide)

theorem wordEnding_space : wordEnding ' ' = some [] := by
  decide

/-- Behind a space, words stay as they are. -/
theorem exists_word_behind_space (listed : word ∈ words rest) (first : List Char) :
    ∃ same ∈ words (first ++ ' ' :: rest), same.text = word.text := by
  have anew : lastPiece wordEnding (first ++ [' ']) = [] := lastPiece_append_cons wordEnding_space first []
  rw [← List.singleton_append, ← List.append_assoc]
  exact exists_word_behind listed anew

/-- A text stands in a list: before it is nothing or a comma and a space, and behind it nothing or a comma. -/
def StandsInList (text whole : List Char) : Prop :=
  ∃ before after, whole = before ++ (text ++ after)
    ∧ (before = [] ∨ ∃ first, before = first ++ [',', ' ']) ∧ (after = [] ∨ ∃ rest, after = ',' :: rest)

/-- Texts that are joined by commas stand in a list. -/
theorem standsInList_of_mem {texts : List String} {text : String} (listed : text ∈ texts) :
    StandsInList text.toList (String.intercalate ", " texts).toList := by
  induction texts with
  | nil => simp at listed
  | cons one others ih =>
      cases others with
      | nil =>
          obtain rfl := List.mem_singleton.mp listed
          exact ⟨[], [], by simp, Or.inl rfl, Or.inl rfl⟩
      | cons next later =>
          rw [String.intercalate_cons_cons, String.toList_append, String.toList_append]
          rcases List.mem_cons.mp listed with rfl | behind
          · exact ⟨[], ", ".toList ++ (String.intercalate ", " (next :: later)).toList, by simp, Or.inl rfl,
              Or.inr ⟨_, rfl⟩⟩
          · obtain ⟨before, after, split, start, stop⟩ := ih behind
            refine ⟨one.toList ++ ", ".toList ++ before, after, by rw [split]; simp, Or.inr ?_, stop⟩
            rcases start with rfl | ⟨first, rfl⟩
            · exact ⟨one.toList, by simp⟩
            · exact ⟨one.toList ++ ", ".toList ++ first, by simp⟩

theorem stopsAt_of_comma {after : List Char} (stop : after = [] ∨ ∃ rest, after = ',' :: rest) : StopsAt after := by
  rcases stop with rfl | ⟨rest, rfl⟩
  · exact stopsAt_nil
  · exact stopsAt_cons isBarrier_comma rest

/-- In lower case a text stands in the list as by itself. -/
theorem StandsInList.lower {whole : List Char} (stands : StandsInList text whole) :
    StandsInList (lower text) (Text.lower whole) := by
  obtain ⟨before, after, rfl, start, stop⟩ := stands
  have ending := lower_append text (stopsAt_of_comma stop)
  have lowered : Text.lower after = [] ∨ ∃ rest, Text.lower after = ',' :: rest := by
    rcases stop with rfl | ⟨rest, rfl⟩
    · exact Or.inl rfl
    · exact Or.inr ⟨_, lower_append_cons isBarrier_comma [] rest⟩
  rcases start with rfl | ⟨first, rfl⟩
  · exact ⟨[], Text.lower after, ending, Or.inl rfl, lowered⟩
  · refine ⟨Text.lower first ++ [',', ' '], Text.lower after, ?_, Or.inr ⟨_, rfl⟩, lowered⟩
    have split : first ++ [',', ' '] ++ (text ++ after) = (first ++ [',']) ++ ' ' :: (text ++ after) := by simp
    rw [split, lower_append_cons isBarrier_space, lower_append_cons isBarrier_comma, ending]
    simp [Text.lower, lowerAfter]

/-- A sentence of the text starts one of the list. -/
theorem StandsInList.exists_sentence {whole : List Char} (stands : StandsInList text whole)
    (listed : sentence ∈ sentences text) : ∃ longer ∈ sentences whole, sentence.text <+: longer.text := by
  obtain ⟨before, after, rfl, start, -⟩ := stands
  obtain ⟨longer, found, leads⟩ := exists_sentence_starting listed after
  rcases start with rfl | ⟨first, rfl⟩
  · exact ⟨longer, found, leads⟩
  · have blank : trimStart (lastPiece sentenceEnding (first ++ [',', ' '])) = [] := by
      have mark : sentenceEnding ',' = some [','] := by decide
      rw [lastPiece_append_cons mark]
      decide
    obtain ⟨same, present, form⟩ := exists_sentence_behind found blank
    exact ⟨same, present, form ▸ leads⟩

/-- A word of the text starts one of the list. -/
theorem StandsInList.exists_word {whole : List Char} (stands : StandsInList text whole)
    (listed : word ∈ words text) : ∃ longer ∈ words whole, Text.lower word.text <+: Text.lower longer.text := by
  obtain ⟨before, after, rfl, start, stop⟩ := stands
  obtain ⟨more, head, longer, found, form⟩ := exists_word_starting listed after
  have leads : Text.lower word.text <+: Text.lower longer.text := by
    have stops : StopsAt more := by
      rcases head with rfl | head
      · exact stopsAt_nil
      · exact (stopsAt_of_comma stop).head_piece head
    rw [form, lower_append _ stops]
    exact List.prefix_append _ _
  rcases start with rfl | ⟨first, rfl⟩
  · exact ⟨longer, found, leads⟩
  · obtain ⟨same, present, copy⟩ := exists_word_behind_space found (first ++ [','])
    have split : first ++ [',', ' '] ++ (text ++ after) = (first ++ [',']) ++ ' ' :: (text ++ after) := by simp
    rw [split]
    exact ⟨same, present, copy ▸ leads⟩

end Letterbox.Text
