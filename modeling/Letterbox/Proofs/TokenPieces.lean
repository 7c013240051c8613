import Letterbox.Proofs.QueryWindows
import Letterbox.Proofs.Sentences

/-!
# Tokens as pieces of sentences

Under substring analysis the tokens of a text are pieces of its lower-cased sentences. Main statements: each
query term of a value that occurs in a sentence is a token of the text, and what starts a token of a text is
a piece of the lower-cased text.
-/

namespace Letterbox

open Text

variable {shortest longest : Nat}

/-- A sentence below the shortest length is its only token; of another the tokens are pieces. -/
def IsTokenOf (shortest longest : Nat) (sentence text : List Char) : Prop :=
  if sentence.length < shortest then text = sentence
  else shortest ≤ text.length ∧ text.length ≤ longest ∧ text <:+: sentence

/-- The pieces that start some letters, by their lengths. -/
theorem mem_leadingPieces {offset : Nat} {letters text : List Char} :
    (∃ piece ∈ leadingPieces shortest longest ⟨offset, letters⟩, piece.text = text)
      ↔ shortest ≤ text.length ∧ text.length ≤ longest ∧ text <+: letters := by
  simp only [leadingPieces, List.mem_map, List.mem_range'_1]
  constructor
  · rintro ⟨piece, ⟨length, ⟨least, most⟩, rfl⟩, rfl⟩
    have taken : (letters.take length).length = length := by
      rw [List.length_take]
      omega
    rw [taken]
    exact ⟨least, by omega, List.take_prefix length letters⟩
  · rintro ⟨least, most, start⟩
    have fits := start.length_le
    exact ⟨_, ⟨text.length, ⟨least, by omega⟩, rfl⟩, (List.prefix_iff_eq_take.mp start).symm⟩

theorem sound_gramTokens {offset position : Nat} {letters : List Char} {token : Token}
    (listed : token ∈ gramTokens shortest longest offset position letters) :
    shortest ≤ token.text.length ∧ token.text.length ≤ longest ∧ token.text <:+: letters := by
  induction letters generalizing offset position with
  | nil => simp [gramTokens] at listed
  | cons letter rest ih =>
      rcases List.mem_append.mp listed with leading | later
      · obtain ⟨piece, found, rfl⟩ := List.mem_map.mp leading
        obtain ⟨least, most, start⟩ := mem_leadingPieces.mp ⟨piece, found, rfl⟩
        exact ⟨least, most, start.isInfix⟩
      · obtain ⟨least, most, inside⟩ := ih later
        exact ⟨least, most, List.infix_cons inside⟩

theorem complete_gramTokens (positive : 1 ≤ shortest) {offset position : Nat} {letters text : List Char}
    (least : shortest ≤ text.length) (most : text.length ≤ longest) (inside : text <:+: letters) :
    ∃ token ∈ gramTokens shortest longest offset position letters, token.text = text := by
  induction letters generalizing offset position with
  | nil =>
      rw [List.infix_nil.mp inside, List.length_nil] at least
      omega
  | cons letter rest ih =>
      rcases List.infix_cons_iff.mp inside with start | later
      · obtain ⟨piece, listed, rfl⟩ := mem_leadingPieces.mpr ⟨least, most, start⟩
        exact ⟨_, List.mem_append_left _ (List.mem_map_of_mem listed), rfl⟩
      · obtain ⟨token, listed, same⟩ := ih later
        exact ⟨token, List.mem_append_right _ listed, same⟩

theorem sound_sentenceTokens {position : Nat} {sentences : List Piece} {token : Token}
    (listed : token ∈ sentenceTokens shortest longest position sentences) :
    ∃ sentence ∈ sentences, IsTokenOf shortest longest sentence.text token.text := by
  induction sentences generalizing position with
  | nil => simp [sentenceTokens] at listed
  | cons sentence rest ih =>
      rw [List.exists_mem_cons_iff, IsTokenOf]
      rw [sentenceTokens] at listed
      split at listed
      · next short =>
        rw [if_pos short]
        rcases List.mem_cons.mp listed with rfl | later
        · exact Or.inl rfl
        · exact Or.inr (ih later)
      · next long =>
        rw [if_neg long]
        rcases List.mem_append.mp listed with own | later
        · exact Or.inl (sound_gramTokens own)
        · exact Or.inr (ih later)

theorem complete_sentenceTokens (positive : 1 ≤ shortest) {position : Nat} {sentences : List Piece}
    {sentence : Piece} {text : List Char} (present : sentence ∈ sentences)
    (isToken : IsTokenOf shortest longest sentence.text text) :
    ∃ token ∈ sentenceTokens shortest longest position sentences, token.text = text := by
  induction sentences generalizing position with
  | nil => simp at present
  | cons first rest ih =>
      rw [sentenceTokens]
      rcases List.mem_cons.mp present with rfl | later
      · unfold IsTokenOf at isToken
        split at isToken
        · next short =>
          rw [if_pos short]
          exact ⟨_, List.mem_cons_self, isToken.symm⟩
        · next long =>
          rw [if_neg long]
          obtain ⟨least, most, inside⟩ := isToken
          obtain ⟨token, listed, same⟩ := complete_gramTokens positive least most inside
          exact ⟨token, List.mem_append_left _ listed, same⟩
      · split
        · obtain ⟨token, listed, same⟩ := ih later
          exact ⟨token, List.mem_cons_of_mem _ listed, same⟩
        · obtain ⟨token, listed, same⟩ := ih later
          exact ⟨token, List.mem_append_right _ listed, same⟩

/-- The tokens of a text are those of the sentences of its lower-case form. -/
theorem Analysis.mem_tokens (positive : 1 ≤ shortest) {letters text : List Char} :
    (∃ token ∈ (Analysis.substrings shortest longest).tokens letters, token.text = text)
      ↔ ∃ sentence ∈ sentences (lower letters), IsTokenOf shortest longest sentence.text text := by
  constructor
  · rintro ⟨token, listed, rfl⟩
    exact sound_sentenceTokens listed
  · rintro ⟨sentence, present, isToken⟩
    exact complete_sentenceTokens positive present isToken

/-! ## What is found -/

/-- A value occurs in a text if its lower-case form lies inside a sentence of the lower-cased text. -/
def OccursIn (value text : List Char) : Prop :=
  ∃ sentence ∈ sentences (lower text), lower value <:+: sentence.text

instance (value text : List Char) : Decidable (OccursIn value text) :=
  inferInstanceAs (Decidable (∃ sentence ∈ sentences (lower text), lower value <:+: sentence.text))

/-- A piece of a sentence occurs in the text if its capital sigmas end the same words there. -/
theorem occursIn_of_piece {sentence : Piece} {text before value after : List Char}
    (listed : sentence ∈ sentences text) (split : sentence.text = before ++ value ++ after)
    (keeps : KeepsSigmas before value after) : OccursIn value text := by
  obtain ⟨lowered, found, form⟩ := exists_sentence_lower listed
  refine ⟨lowered, found, ?_⟩
  rw [form, split]
  exact keeps.isInfix

/-- A piece of a sentence is a token of the text if its length is between the bounds. -/
theorem Analysis.exists_token_of_isInfix (positive : 1 ≤ shortest) {text piece : List Char} {sentence : Piece}
    (listed : sentence ∈ sentences (lower text)) (inside : piece <:+: sentence.text)
    (least : shortest ≤ piece.length) (most : piece.length ≤ longest) :
    ∃ token ∈ (Analysis.substrings shortest longest).tokens text, token.text = piece := by
  -- the sentence is not shorter than the piece
  have long : ¬ sentence.text.length < shortest := Nat.not_lt.mpr (least.trans inside.length_le)
  refine (Analysis.mem_tokens positive).mpr ⟨sentence, listed, ?_⟩
  rw [IsTokenOf, if_neg long]
  exact ⟨least, most, inside⟩

/-- Each query term of a value that occurs in a text is a token of it, unless the value is too short. -/
theorem OccursIn.exists_token {value text term : List Char} (occurs : OccursIn value text)
    (positive : 1 ≤ shortest) (ordered : shortest ≤ longest) (enough : shortest ≤ (lower value).length)
    (wanted : term ∈ (Analysis.substrings shortest longest).queryTerms value) :
    ∃ token ∈ (Analysis.substrings shortest longest).tokens text, token.text = term := by
  obtain ⟨sentence, listed, inside⟩ := occurs
  have isWindow := Analysis.mem_queryTerms.mp wanted
  have length := isWindow.length_eq
  exact Analysis.exists_token_of_isInfix positive listed (isWindow.isInfix.trans inside) (by omega) (by omega)

/--
There is room for a token at the last window, of some width, of a value between other characters: at least
`shortest` characters stand from there on, or the value is one window and starts a sentence that is below that
length, so that the sentence is a token as a whole.
-/
def HasRoom (shortest width : Nat) (before value after : List Char) : Prop :=
  shortest ≤ width + after.length
    ∨ before = [] ∧ value.length ≤ width ∧ value.length + after.length < shortest

/-- Each window of a value starts a token of the text, also of other lengths, where there is room for one. -/
theorem exists_token_of_window (positive : 1 ≤ shortest) (ordered : shortest ≤ longest) {width : Nat}
    {text value window before after : List Char} {sentence : Piece}
    (listed : sentence ∈ sentences (lower text)) (split : sentence.text = before ++ value ++ after)
    (isWindow : IsWindow width value window) (most : window.length ≤ longest)
    (room : HasRoom shortest window.length before value after) :
    ∃ token ∈ (Analysis.substrings shortest longest).tokens text,
      window <+: token.text ∧ token.text.length ≤ max shortest window.length := by
  rcases room with enough | ⟨rfl, whole, short⟩
  · -- the token goes on behind the window as far as the shortest length asks for
    obtain ⟨first, rest, inside⟩ := isWindow.isInfix
    have place : (window ++ (rest ++ after)).take (max shortest window.length) <:+: sentence.text := by
      refine (List.take_prefix _ _).isInfix.trans ⟨before ++ first, [], ?_⟩
      rw [split, ← inside]
      simp
    have length : ((window ++ (rest ++ after)).take (max shortest window.length)).length
        = max shortest window.length := by
      rw [List.length_take, List.length_append, List.length_append]
      omega
    obtain ⟨token, found, same⟩ : ∃ token ∈ (Analysis.substrings shortest longest).tokens text,
        token.text = (window ++ (rest ++ after)).take (max shortest window.length) :=
      Analysis.exists_token_of_isInfix positive listed place (by omega) (by omega)
    refine ⟨token, found, ?_, ?_⟩
    · rw [same, List.prefix_take_iff]
      exact ⟨List.prefix_append _ _, Nat.le_max_right _ _⟩
    · rw [same, length]
  · -- the sentence is a token
    have same : window = value := isWindow.isInfix.eq_of_length_le whole
    have below : sentence.text.length < shortest := by
      rw [split, List.nil_append, List.length_append]
      exact short
    have isToken : IsTokenOf shortest longest sentence.text sentence.text := by
      rw [IsTokenOf, if_pos below]
    obtain ⟨token, found, form⟩ := (Analysis.mem_tokens positive).mpr ⟨sentence, listed, isToken⟩
    refine ⟨token, found, ?_, ?_⟩
    · rw [form, split, same]
      exact List.prefix_append _ _
    · rw [form]
      exact (Nat.le_of_lt below).trans (Nat.le_max_left _ _)

/-! ## What starts a token -/

theorem IsTokenOf.isInfix {sentence text : List Char} (isToken : IsTokenOf shortest longest sentence text) :
    text <:+: sentence := by
  unfold IsTokenOf at isToken
  split at isToken
  · rw [isToken]
  · exact isToken.2.2

theorem exists_word_of_mem_wordTokens {position : Nat} {words : List Piece} {token : Token}
    (listed : token ∈ wordTokens position words) : ∃ word ∈ words, token.text = lower word.text := by
  induction words generalizing position with
  | nil => simp [wordTokens] at listed
  | cons word rest ih =>
      rw [List.exists_mem_cons_iff]
      rcases List.mem_cons.mp listed with rfl | later
      · exact Or.inl rfl
      · exact Or.inr (ih later)

theorem exists_token_of_mem_words {position : Nat} {words : List Piece} {word : Piece} (listed : word ∈ words) :
    ∃ token ∈ wordTokens position words, token.text = lower word.text := by
  induction words generalizing position with
  | nil => simp at listed
  | cons first rest ih =>
      rcases List.mem_cons.mp listed with rfl | later
      · exact ⟨_, List.mem_cons_self, rfl⟩
      · obtain ⟨token, found, form⟩ := ih later
        exact ⟨token, List.mem_cons_of_mem _ found, form⟩

/-- However a text is analysed, what starts one of its tokens is a piece of its lower-case form. -/
theorem Analysis.isInfix_of_starts_token (analysis : Analysis) {text start : List Char} {token : Token}
    (listed : token ∈ analysis.tokens text) (starts : start <+: token.text) : start <:+: lower text := by
  refine starts.isInfix.trans ?_
  cases analysis with
  | substrings shortest longest =>
      obtain ⟨sentence, found, isToken⟩ := sound_sentenceTokens listed
      exact isToken.isInfix.trans (isInfix_of_mem_sentences found)
  | words =>
      obtain ⟨word, found, form⟩ := exists_word_of_mem_wordTokens listed
      rw [form]
      exact isInfix_lower_of_mem_words found

end Letterbox
