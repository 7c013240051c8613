import Letterbox.Proofs.SentencePlaces
import Letterbox.Proofs.TokenPieces

/-!
# Where tokens stand

Main statement: under substring analysis some token of a text starts with a value exactly if the value stands in
a sentence where there is room for a token, and the tokens are slices of the lower-cased text that come in order,
each at its own place.
-/

namespace Letterbox

open Text

variable {shortest longest : Nat}

/-! ## What tokens start with -/

/-- Some token of a sentence starts with a value if the value stands where there is room for a token. -/
theorem exists_isTokenOf_starting (ordered : shortest ≤ longest) {sentence value : List Char}
    (most : value.length ≤ longest) :
    (∃ text, IsTokenOf shortest longest sentence text ∧ value <+: text)
      ↔ ∃ place, (sentence.drop place).take value.length = value
        ∧ (shortest ≤ sentence.length ∧ place + max value.length shortest ≤ sentence.length
          ∨ sentence.length < shortest ∧ place = 0) := by
  constructor
  · rintro ⟨text, isToken, start⟩
    unfold IsTokenOf at isToken
    split at isToken
    · next short =>
      subst isToken
      exact ⟨0, (List.prefix_iff_eq_take.mp start).symm, Or.inr ⟨short, rfl⟩⟩
    · next long =>
      obtain ⟨least, -, before, after, split⟩ := isToken
      have length := congrArg List.length split
      simp only [List.length_append] at length
      have shorter := start.length_le
      refine ⟨before.length, ?_, Or.inl ⟨by omega, by omega⟩⟩
      obtain ⟨rest, rfl⟩ := start
      rw [← split]
      simp
  · rintro ⟨place, stands, ⟨long, room⟩ | ⟨short, rfl⟩⟩
    · -- the token goes on behind the value as far as the shortest length asks for
      have length : ((sentence.drop place).take (max value.length shortest)).length
          = max value.length shortest := by
        rw [List.length_take, List.length_drop]
        omega
      refine ⟨(sentence.drop place).take (max value.length shortest), ?_, ?_⟩
      · rw [IsTokenOf, if_neg (Nat.not_lt.mpr long), length]
        exact ⟨by omega, by omega,
          (List.take_prefix _ _).isInfix.trans (List.drop_suffix _ _).isInfix⟩
      · rw [List.prefix_iff_eq_take, List.take_take, Nat.min_eq_left (Nat.le_max_left _ _)]
        exact stands.symm
    · refine ⟨sentence, by rw [IsTokenOf, if_pos short], ?_⟩
      rw [List.drop_zero] at stands
      exact List.prefix_iff_eq_take.mpr stands.symm

/-! ## Slices -/

/-- A token is a slice of a piece of text, with its ends in bytes, and has a position in a range. -/
structure Token.Within (piece : Piece) (first next : Nat) (token : Token) : Prop where
  stands : Piece.StandsIn piece.offset piece.text ⟨token.start, token.text⟩
  stop_eq : token.stop = token.start + byteSize token.text
  first_le : first ≤ token.position
  lt_next : token.position < next

/-- A token comes before another: it starts before it or is shorter, and is not at a later position. -/
def Token.Before (one other : Token) : Prop :=
  (one.start < other.start ∨ one.start = other.start ∧ one.stop < other.stop)
    ∧ one.position ≤ other.position

theorem within_gramTokens {offset position : Nat} {letters : List Char} {token : Token}
    (listed : token ∈ gramTokens shortest longest offset position letters) :
    token.Within ⟨offset, letters⟩ position (position + letters.length) := by
  induction letters generalizing offset position with
  | nil => simp [gramTokens] at listed
  | cons letter rest ih =>
      rcases List.mem_append.mp listed with leading | later
      · obtain ⟨piece, found, rfl⟩ := List.mem_map.mp leading
        obtain ⟨length, -, rfl⟩ := List.mem_map.mp found
        exact ⟨Piece.standsIn_of_prefix (List.take_prefix _ _), rfl, Nat.le_refl position, by simp [Token.ofPiece]⟩
      · obtain ⟨stands, stop, first, next⟩ := ih later
        refine ⟨stands.cons, stop, by omega, ?_⟩
        rw [List.length_cons]
        omega

theorem ordered_gramTokens (offset position : Nat) (letters : List Char) :
    (gramTokens shortest longest offset position letters).Pairwise Token.Before := by
  induction letters generalizing offset position with
  | nil => exact .nil
  | cons letter rest ih =>
      refine List.pairwise_append.mpr ⟨?_, ih _ _, ?_⟩
      · -- at one letter the longer token comes later
        rw [List.pairwise_map, leadingPieces, List.pairwise_map]
        refine List.Pairwise.imp_of_mem ?_ List.pairwise_lt_range'
        intro less more _ within longer
        obtain ⟨least, most⟩ := List.mem_range'_1.mp within
        have fits : more ≤ (letter :: rest).length := by
          have enough := Nat.min_le_right longest (letter :: rest).length
          change more < shortest + (min longest (letter :: rest).length + 1 - shortest) at most
          omega
        exact ⟨Or.inr ⟨rfl, Nat.add_lt_add_left (byteSize_take_lt longer fits) offset⟩, Nat.le_refl position⟩
      · intro one leading other later
        obtain ⟨piece, found, rfl⟩ := List.mem_map.mp leading
        obtain ⟨length, -, rfl⟩ := List.mem_map.mp found
        have behind := within_gramTokens later
        have start : offset < other.start :=
          (Nat.lt_add_of_pos_right letter.utf8Size_pos).trans_le behind.stands.start_le
        exact ⟨Or.inl start, Nat.le_of_succ_le behind.first_le⟩

/-! ## The tokens of sentences -/

/-- The tokens of one sentence. -/
def ownTokens (shortest longest position : Nat) (sentence : Piece) : List Token :=
  if sentence.text.length < shortest then [Token.ofPiece position sentence]
  else gramTokens shortest longest sentence.offset position sentence.text

/-- The position behind the tokens of a sentence. -/
def positionAfter (shortest position : Nat) (sentence : Piece) : Nat :=
  if sentence.text.length < shortest then position + 1 else position + sentence.text.length

theorem sentenceTokens_cons (position : Nat) (sentence : Piece) (rest : List Piece) :
    sentenceTokens shortest longest position (sentence :: rest)
      = ownTokens shortest longest position sentence
        ++ sentenceTokens shortest longest (positionAfter shortest position sentence) rest := by
  rw [sentenceTokens, ownTokens, positionAfter]
  split <;> rfl

theorem within_ownTokens {position : Nat} {sentence : Piece} {token : Token}
    (listed : token ∈ ownTokens shortest longest position sentence) :
    token.Within sentence position (positionAfter shortest position sentence) := by
  unfold ownTokens at listed
  unfold positionAfter
  split at listed
  · next short =>
    rw [if_pos short]
    obtain rfl := List.mem_singleton.mp listed
    exact ⟨Piece.standsIn_of_prefix List.prefix_rfl, rfl, Nat.le_refl position, Nat.lt_succ_self position⟩
  · next long =>
    rw [if_neg long]
    exact within_gramTokens listed

theorem ordered_ownTokens (position : Nat) (sentence : Piece) :
    (ownTokens shortest longest position sentence).Pairwise Token.Before := by
  unfold ownTokens
  split
  · exact List.pairwise_singleton _ _
  · exact ordered_gramTokens _ _ _

theorem ne_nil_of_mem_ownTokens (positive : 1 ≤ shortest) {position : Nat} {sentence : Piece}
    (proper : sentence.text ≠ []) {token : Token}
    (listed : token ∈ ownTokens shortest longest position sentence) : token.text ≠ [] := by
  unfold ownTokens at listed
  split at listed
  · obtain rfl := List.mem_singleton.mp listed
    exact proper
  · exact List.ne_nil_of_length_pos (positive.trans (sound_gramTokens listed).1)

/-- Each token of some sentences is a slice of one of them. -/
theorem within_sentenceTokens {position : Nat} {sentences : List Piece} {token : Token}
    (listed : token ∈ sentenceTokens shortest longest position sentences) :
    ∃ sentence ∈ sentences, ∃ next, token.Within sentence position next := by
  induction sentences generalizing position with
  | nil => simp [sentenceTokens] at listed
  | cons sentence rest ih =>
      rw [List.exists_mem_cons_iff]
      rw [sentenceTokens_cons] at listed
      rcases List.mem_append.mp listed with own | later
      · exact Or.inl ⟨_, within_ownTokens own⟩
      · obtain ⟨other, present, next, within⟩ := ih later
        have forward : position ≤ positionAfter shortest position sentence := by
          unfold positionAfter
          split <;> omega
        exact Or.inr ⟨other, present, next, within.stands, within.stop_eq, forward.trans within.first_le,
          within.lt_next⟩

/-- The tokens of sentences that stand one behind the other come in order. -/
theorem ordered_sentenceTokens (positive : 1 ≤ shortest) (position : Nat) {sentences : List Piece}
    (proper : ∀ sentence ∈ sentences, sentence.text ≠ [])
    (apart : sentences.Pairwise fun one other => one.stop ≤ other.offset) :
    (sentenceTokens shortest longest position sentences).Pairwise Token.Before := by
  induction sentences generalizing position with
  | nil => exact .nil
  | cons sentence rest ih =>
      obtain ⟨own, others⟩ := List.forall_mem_cons.mp proper
      obtain ⟨first, later⟩ := List.pairwise_cons.mp apart
      rw [sentenceTokens_cons]
      refine List.pairwise_append.mpr ⟨ordered_ownTokens _ _, ih _ others later, ?_⟩
      intro one here other there
      obtain ⟨another, present, next, place⟩ := within_sentenceTokens there
      have before := within_ownTokens here
      have size := byteSize_pos (ne_nil_of_mem_ownTokens positive own here)
      -- a token ends in its sentence, and a later one starts in a later sentence
      have ends : one.start + byteSize one.text ≤ sentence.stop := before.stands.stop_le
      have starts : another.offset ≤ other.start := place.stands.start_le
      have gap := first another present
      refine ⟨Or.inl (by omega), ?_⟩
      exact (Nat.le_of_lt before.lt_next).trans place.first_le

/--
Some token of a text starts with a value exactly if the value stands in a sentence of the lower-cased text, and
the sentence goes on for the shortest length from there, or is below that length and starts with the value. Each
token is a slice of the lower-cased text, no two are at one place, and their positions do not decrease.
-/
theorem Analysis.substringTokens_exact (positive : 1 ≤ shortest) (ordered : shortest ≤ longest)
    (text : List Char) :
    let tokens := (Analysis.substrings shortest longest).tokens text
    (∀ value : List Char, value.length ≤ longest →
        ((∃ token ∈ tokens, value <+: token.text)
          ↔ ∃ sentence ∈ sentences (lower text), ∃ place,
            (sentence.text.drop place).take value.length = value
              ∧ (shortest ≤ sentence.text.length
                  ∧ place + max value.length shortest ≤ sentence.text.length
                ∨ sentence.text.length < shortest ∧ place = 0)))
      ∧ (∀ token ∈ tokens, ∃ before after, lower text = before ++ token.text ++ after
        ∧ token.start = byteSize before ∧ token.stop = byteSize (before ++ token.text))
      ∧ tokens.Pairwise (fun one other => (one.start, one.stop) ≠ (other.start, other.stop))
      ∧ tokens.Pairwise (fun one other => one.position ≤ other.position) := by
  intro tokens
  have before : tokens.Pairwise Token.Before :=
    ordered_sentenceTokens positive 0 (fun _ => ne_nil_of_mem_sentences) (ordered_sentences (lower text))
  refine ⟨fun value most => ?_, fun token listed => ?_, before.imp ?_, before.imp And.right⟩
  · simp only [← exists_isTokenOf_starting ordered most]
    constructor
    · rintro ⟨token, listed, start⟩
      obtain ⟨sentence, present, isToken⟩ := (Analysis.mem_tokens positive).mp ⟨token, listed, rfl⟩
      exact ⟨sentence, present, token.text, isToken, start⟩
    · rintro ⟨sentence, present, form, isToken, start⟩
      obtain ⟨token, listed, rfl⟩ := (Analysis.mem_tokens positive).mpr ⟨sentence, present, isToken⟩
      exact ⟨token, listed, start⟩
  · obtain ⟨sentence, present, next, within⟩ := within_sentenceTokens listed
    obtain ⟨first, last, split, place⟩ := within.stands.trans (standsIn_of_mem_sentences present)
    simp only [Nat.zero_add] at place
    refine ⟨first, last, split, place, ?_⟩
    rw [within.stop_eq, place, byteSize_append]
  · rintro one other ⟨apart, -⟩ same
    obtain ⟨start, stop⟩ := Prod.mk.inj same
    omega

/-- The sentences of a text of which the second one is below two letters. -/
theorem sentences_shortEnding :
    sentences (lower "Ab, É".toList) = [⟨0, ['a', 'b', ',']⟩, ⟨4, ['é']⟩] := by
  decide +kernel

/-- The sentence of one letter is a token; no token starts with the mark that ends the other sentence. -/
theorem substringTokens_exact_shortEnding :
    (1 ≤ 2 ∧ 2 ≤ 3)
      ∧ (∃ token ∈ (Analysis.substrings 2 3).tokens "Ab, É".toList, ['é'] <+: token.text)
      ∧ ¬ (∃ token ∈ (Analysis.substrings 2 3).tokens "Ab, É".toList, [','] <+: token.text)
      ∧ ((Analysis.substrings 2 3).tokens "Ab, É".toList).Pairwise
        fun one other => one.position ≤ other.position := by
  obtain ⟨starts, -, -, positions⟩ :=
    @Analysis.substringTokens_exact 2 3 (by decide) (by decide) "Ab, É".toList
  rw [sentences_shortEnding] at starts
  refine ⟨by decide, (starts ['é'] (by decide)).mpr ?_, fun found => ?_, positions⟩
  · exact ⟨⟨4, ['é']⟩, by decide, 0, rfl, Or.inr ⟨by decide, rfl⟩⟩
  · obtain ⟨sentence, listed, place, stands, room⟩ := (starts [','] (by decide)).mp found
    rcases List.mem_cons.mp listed with rfl | listed
    · rcases room with ⟨-, room⟩ | ⟨short, -⟩
      · have within : place = 0 ∨ place = 1 := by
          simp only [List.length_cons, List.length_nil] at room
          omega
        rcases within with rfl | rfl
        · exact absurd stands (by decide)
        · exact absurd stands (by decide)
      · exact absurd short (by decide)
    · obtain rfl := List.mem_singleton.mp listed
      rcases room with ⟨long, -⟩ | ⟨-, rfl⟩
      · exact absurd long (by decide)
      · exact absurd stands (by decide)

end Letterbox
