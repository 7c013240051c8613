import Letterbox.Proofs.Sentences

/-!
# Where sentences stand

A piece of a text comes with its offset in bytes. Main statements: each sentence stands in its text at its
offset, and each one ends before the next one starts.
-/

namespace Letterbox.Text

theorem byteSize_pos {text : List Char} (proper : text ≠ []) : 0 < byteSize text := by
  cases text with
  | nil => exact absurd rfl proper
  | cons letter rest => exact Nat.add_pos_left letter.utf8Size_pos _

/-- More letters of a text take more bytes. -/
theorem byteSize_take_lt {text : List Char} {less more : Nat} (longer : less < more)
    (within : more ≤ text.length) : byteSize (text.take less) < byteSize (text.take more) := by
  have added : (text.drop less).take (more - less) ≠ [] := by
    refine List.ne_nil_of_length_pos ?_
    rw [List.length_take, List.length_drop]
    omega
  obtain ⟨count, rfl⟩ := Nat.exists_eq_add_of_lt longer
  rw [Nat.add_assoc, Nat.add_sub_cancel_left] at added
  rw [Nat.add_assoc, List.take_add, byteSize_append]
  exact Nat.lt_add_of_pos_right (byteSize_pos added)

/-! ## Pieces -/

namespace Piece

/-- A piece stands, at its offset, in a text that starts at `start`. -/
def StandsIn (start : Nat) (text : List Char) (piece : Piece) : Prop :=
  ∃ before after, text = before ++ piece.text ++ after ∧ piece.offset = start + byteSize before

variable {start : Nat} {text : List Char} {piece : Piece}

/-- What a text begins with stands at its start. -/
theorem standsIn_of_prefix {first : List Char} (leads : first <+: text) :
    StandsIn start text ⟨start, first⟩ := by
  obtain ⟨after, rfl⟩ := leads
  exact ⟨[], after, rfl, rfl⟩

namespace StandsIn

/-- A piece stays where it is if its text goes back by a letter. -/
theorem cons {letter : Char} (stands : piece.StandsIn (start + letter.utf8Size) text) :
    piece.StandsIn start (letter :: text) := by
  obtain ⟨before, after, rfl, offset⟩ := stands
  exact ⟨letter :: before, after, rfl, by rw [offset, byteSize, Nat.add_assoc]⟩

/-- A piece of a piece is a piece of the text. -/
theorem trans {inner : Piece} (within : inner.StandsIn piece.offset piece.text)
    (stands : piece.StandsIn start text) : inner.StandsIn start text := by
  obtain ⟨before, after, split, offset⟩ := within
  obtain ⟨first, last, rfl, place⟩ := stands
  refine ⟨first ++ before, after ++ last, ?_, ?_⟩
  · rw [split]
    simp only [List.append_assoc]
  · rw [offset, place, byteSize_append, Nat.add_assoc]

theorem start_le (stands : piece.StandsIn start text) : start ≤ piece.offset := by
  obtain ⟨before, after, -, offset⟩ := stands
  rw [offset]
  exact Nat.le_add_right _ _

theorem stop_le (stands : piece.StandsIn start text) : piece.stop ≤ start + byteSize text := by
  obtain ⟨before, after, rfl, offset⟩ := stands
  rw [stop, offset, byteSize_append, byteSize_append]
  omega

end StandsIn

theorem standsIn_trimStart (piece : Piece) : piece.trimStart.StandsIn piece.offset piece.text := by
  refine ⟨piece.text.takeWhile isBlank, [], ?_, rfl⟩
  rw [List.append_nil]
  exact List.takeWhile_append_dropWhile.symm

/-- Without its leading blanks a piece ends where it ended. -/
theorem stop_trimStart (piece : Piece) : piece.trimStart.stop = piece.stop := by
  have whole := congrArg byteSize (List.takeWhile_append_dropWhile (p := isBlank) (l := piece.text))
  rw [byteSize_append] at whole
  rw [stop, stop, ← whole, ← Nat.add_assoc]
  rfl

end Piece

/-! ## Segments and sentences -/

/-- The segments of a text that starts at an offset; the first one starts there. -/
def segments (offset : Nat) (text : List Char) : List Piece :=
  ⟨offset, (cutSegments offset text).1⟩ :: (cutSegments offset text).2

/-- One more letter is a segment of its own, or ends or goes on with the first one. -/
theorem segments_cons (offset : Nat) (letter : Char) (rest : List Char) :
    segments offset (letter :: rest)
      = if isLineBreak letter then ⟨offset, []⟩ :: segments (offset + letter.utf8Size) rest
        else if closingMarks.contains letter then
          ⟨offset, [letter]⟩ :: segments (offset + letter.utf8Size) rest
        else
          ⟨offset, letter :: (cutSegments (offset + letter.utf8Size) rest).1⟩
            :: (cutSegments (offset + letter.utf8Size) rest).2 := by
  unfold segments
  rw [cutSegments_cons]
  split
  · rfl
  · split <;> rfl

/-- Segments stand in their text. -/
theorem standsIn_of_mem_segments {offset : Nat} {text : List Char} {segment : Piece}
    (listed : segment ∈ segments offset text) : segment.StandsIn offset text := by
  induction text generalizing offset with
  | nil =>
      obtain rfl := List.mem_singleton.mp listed
      exact Piece.standsIn_of_prefix List.nil_prefix
  | cons letter rest ih =>
      rw [segments_cons] at listed
      split at listed
      · rcases List.mem_cons.mp listed with rfl | later
        · exact Piece.standsIn_of_prefix List.nil_prefix
        · exact (ih later).cons
      · split at listed
        · rcases List.mem_cons.mp listed with rfl | later
          · exact Piece.standsIn_of_prefix ⟨rest, rfl⟩
          · exact (ih later).cons
        · rcases List.mem_cons.mp listed with rfl | later
          · exact Piece.standsIn_of_prefix
              (List.cons_prefix_cons.mpr ⟨rfl, (cutSegments_isInfix _ rest).1⟩)
          · exact (ih (List.mem_cons_of_mem _ later)).cons

/-- Each segment ends before the next one starts. -/
theorem ordered_segments (offset : Nat) (text : List Char) :
    (segments offset text).Pairwise fun one other => one.stop ≤ other.offset := by
  induction text generalizing offset with
  | nil => exact List.pairwise_singleton _ _
  | cons letter rest ih =>
      have later : ∀ segment ∈ segments (offset + letter.utf8Size) rest,
          offset + letter.utf8Size ≤ segment.offset :=
        fun segment listed => (standsIn_of_mem_segments listed).start_le
      rw [segments_cons]
      split
      · refine List.pairwise_cons.mpr ⟨fun segment listed => ?_, ih _⟩
        exact (Nat.le_add_right _ _).trans (later segment listed)
      · split
        · exact List.pairwise_cons.mpr ⟨later, ih _⟩
        · -- the first segment is longer by a letter in front, so it ends where it ended
          obtain ⟨first, others⟩ := List.pairwise_cons.mp (ih (offset + letter.utf8Size))
          refine List.pairwise_cons.mpr ⟨fun segment listed => ?_, others⟩
          have ends := first segment listed
          rw [Piece.stop] at ends ⊢
          rwa [byteSize, ← Nat.add_assoc]

variable {text : List Char} {sentence : Piece}

theorem sentences_eq (text : List Char) :
    sentences text = ((segments 0 text).map Piece.trimStart).filter (! ·.text.isEmpty) :=
  rfl

/-- A sentence is what trimming leaves of a segment. -/
theorem mem_sentences_iff :
    sentence ∈ sentences text ↔ sentence.text ≠ [] ∧ ∃ segment ∈ segments 0 text, segment.trimStart = sentence := by
  rw [sentences_eq, List.mem_filter, List.mem_map, and_comm]
  simp

theorem ne_nil_of_mem_sentences (listed : sentence ∈ sentences text) : sentence.text ≠ [] :=
  (mem_sentences_iff.mp listed).1

/-- A sentence stands in its text at its offset. -/
theorem standsIn_of_mem_sentences (listed : sentence ∈ sentences text) : sentence.StandsIn 0 text := by
  obtain ⟨-, segment, cut, rfl⟩ := mem_sentences_iff.mp listed
  exact segment.standsIn_trimStart.trans (standsIn_of_mem_segments cut)

/-- Each sentence ends before the next one starts. -/
theorem ordered_sentences (text : List Char) :
    (sentences text).Pairwise fun one other => one.stop ≤ other.offset := by
  rw [sentences_eq]
  refine List.Pairwise.filter _ (List.pairwise_map.mpr ((ordered_segments 0 text).imp ?_))
  intro one other ends
  rw [Piece.stop_trimStart]
  exact ends.trans other.standsIn_trimStart.start_le

end Letterbox.Text
