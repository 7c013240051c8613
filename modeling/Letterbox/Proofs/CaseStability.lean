import Letterbox.Proofs.CriterionText
import Letterbox.Proofs.JoinedTexts
import Letterbox.Proofs.WordRuns

/-!
# Texts in lower case

A text in lower case is its own lower-case form: no letter has a form that has another form, and no form is one of
the letters that make the exceptions. Blanks stand where they stood. Main statement: mailboxes, tokens, query terms
and the scopes of header names are those of the lower-case form.
-/

namespace Letterbox

namespace Text

/-! ## Forms of letters -/

/-- No code point from `first` to `last`, in steps of `stride`, belongs to a range. -/
def CaseRange.misses (range : CaseRange) (first last stride : Nat) : Bool :=
  range.last.blt first || last.blt range.first
    || ((first - range.first) % range.stride != 0 && (first == last || stride % range.stride == 0))

/-- The lower-case forms to which a range leads belong to no range. -/
def CaseRange.isFinal (range : CaseRange) : Bool :=
  let first := ((range.first : Int) + range.shift).toNat
  let last := ((range.last : Int) + range.shift).toNat
  0 ≤ (range.first : Int) + range.shift && lowerRanges.all fun other => other.misses first last range.stride

theorem lowerRanges_areFinal : lowerRanges.all CaseRange.isFinal = true := by
  decide +kernel

theorem CaseRange.not_covers_of_misses {range : CaseRange} {first last stride code : Nat}
    (misses : range.misses first last stride = true) (above : first ≤ code) (below : code ≤ last)
    (step : (code - first) % stride = 0) : range.covers code = false := by
  rw [← Bool.not_eq_true]
  intro covered
  simp only [covers, Bool.and_eq_true, decide_eq_true_eq, beq_iff_eq] at covered
  obtain ⟨⟨start, stop⟩, own⟩ := covered
  simp only [CaseRange.misses, Bool.or_eq_true, Bool.and_eq_true, Nat.blt_eq, bne_iff_ne, beq_iff_eq] at misses
  rcases misses with (short | long) | ⟨apart, single | steps⟩
  · omega
  · omega
  · obtain rfl : code = first := by omega
    exact apart own
  · -- both step from points that differ by no multiple of the range's stride
    have before : range.first ≤ first := by
      by_contra behind
      rw [Nat.sub_eq_zero_of_le (by omega), Nat.zero_mod] at apart
      exact apart rfl
    have whole : code - range.first = (code - first) + (first - range.first) := by omega
    have divides : range.stride ∣ code - first :=
      (Nat.dvd_of_mod_eq_zero steps).trans (Nat.dvd_of_mod_eq_zero step)
    have same := Nat.dvd_of_mod_eq_zero own
    rw [whole, Nat.dvd_add_right divides] at same
    exact apart (Nat.mod_eq_zero_of_dvd same)

/-- A lower-case form has no other lower-case form. -/
theorem caseShift_lowerSimple (letter : Char) : caseShift (lowerSimple letter).toNat lowerRanges = 0 := by
  rcases caseShift_cases letter.toNat lowerRanges with none | ⟨range, listed, covered, shift⟩
  · rw [lowerSimple_of_unshifted none, none]
  · by_cases proper : (lowerSimple letter).toNat = 0
    · rw [proper]
      decide +kernel
    · have target := toNat_lowerSimple proper
      rw [shift] at target
      have final := List.all_eq_true.mp lowerRanges_areFinal range listed
      simp only [CaseRange.isFinal, Bool.and_eq_true, decide_eq_true_eq] at final
      simp only [CaseRange.covers, Bool.and_eq_true, decide_eq_true_eq, beq_iff_eq] at covered
      obtain ⟨⟨start, stop⟩, step⟩ := covered
      rcases caseShift_cases (lowerSimple letter).toNat lowerRanges with none | ⟨other, found, meets, -⟩
      · exact none
      · have misses := List.all_eq_true.mp final.2 other found
        have steps : (lowerSimple letter).toNat - ((range.first : Int) + range.shift).toNat
            = letter.toNat - range.first := by omega
        rw [CaseRange.not_covers_of_misses misses (by omega) (by omega) (by rw [steps, step])] at meets
        exact absurd meets Bool.false_ne_true

/-- A letter is its own lower-case form wherever it stands. -/
def IsLow (letter : Char) : Prop :=
  ∀ before after, lowerLetter before letter after = [letter]

theorem isLow_lowerSimple {letter : Char} (dotted : letter ≠ 'İ') : IsLow (lowerSimple letter) := by
  have unshifted := caseShift_lowerSimple letter
  refine lowerLetter_of_unshifted (fun sigma => ?_) (fun form => dotted ?_) unshifted
  · rw [sigma] at unshifted
    exact absurd unshifted (by decide +kernel)
  · -- no range leads to the dotted capital
    have proper : (lowerSimple letter).toNat ≠ 0 := by
      rw [form]
      decide
    rcases lowerSimple_source proper with same | ⟨range, listed, source⟩
    · rw [← same, form]
    · have sourceless : isSourceless 'İ'.toNat = true := by decide +kernel
      have none := List.all_eq_true.mp sourceless range listed
      rw [form, beq_iff_eq.mp none] at source
      exact absurd source nofun

theorem exceptions_unshifted :
    (['ς', 'σ', 'i', '\u0307'].all fun letter => caseShift letter.toNat lowerRanges == 0) = true := by
  decide +kernel

/-- The forms that make the exceptions are low, too. -/
theorem isLow_of_exception {letter : Char} (listed : letter ∈ ['ς', 'σ', 'i', '\u0307']) : IsLow letter := by
  have unshifted := beq_iff_eq.mp (List.all_eq_true.mp exceptions_unshifted letter listed)
  refine lowerLetter_of_unshifted ?_ ?_ unshifted
  · rintro rfl
    exact absurd listed (by decide)
  · rintro rfl
    exact absurd listed (by decide)

theorem isLow_of_mem_lowerLetter {before after : List Char} {letter lowered : Char}
    (listed : lowered ∈ lowerLetter before letter after) : IsLow lowered := by
  unfold lowerLetter at listed
  split at listed
  · obtain rfl := List.mem_singleton.mp listed
    refine isLow_of_exception ?_
    split
    · decide
    · decide
  · split at listed
    · refine isLow_of_exception ?_
      simp only [List.mem_cons, List.not_mem_nil, or_false] at listed ⊢
      tauto
    · next plain =>
      obtain rfl := List.mem_singleton.mp listed
      exact isLow_lowerSimple (by simpa using plain)

/-! ## Lower-case texts -/

theorem isLow_of_mem_lowerAfter {before text : List Char} {lowered : Char}
    (listed : lowered ∈ lowerAfter before text) : IsLow lowered := by
  induction text generalizing before with
  | nil => simp [lowerAfter] at listed
  | cons letter rest ih =>
      rw [lowerAfter, List.mem_append] at listed
      rcases listed with here | later
      · exact isLow_of_mem_lowerLetter here
      · exact ih later

theorem lowerAfter_of_low {before text : List Char} (low : ∀ letter ∈ text, IsLow letter) :
    lowerAfter before text = text := by
  induction text generalizing before with
  | nil => rfl
  | cons letter rest ih =>
      obtain ⟨own, others⟩ := List.forall_mem_cons.mp low
      rw [lowerAfter, own, ih others]
      rfl

/-- A lower-case form is its own lower-case form. -/
theorem lower_lower (text : List Char) : lower (lower text) = lower text :=
  lowerAfter_of_low fun _ listed => isLow_of_mem_lowerAfter listed

/-! ## Words and ends -/

variable {text : List Char}

theorem dark_of_mem_lowerLetter {before after : List Char} {letter lowered : Char} (dark : isBlank letter = false)
    (listed : lowered ∈ lowerLetter before letter after) : isBlank lowered = false := by
  rw [← Bool.not_eq_true]
  intro light
  rw [eq_of_mem_lowerLetter listed (isSeparator_of_isBlank light), dark] at light
  exact Bool.noConfusion light

theorem IsDark.lower (dark : IsDark text) : IsDark (lower text) := by
  have every : ∀ before, IsDark (lowerAfter before text) := by
    induction text with
    | nil => exact fun before letter listed => absurd listed List.not_mem_nil
    | cons letter rest ih =>
        obtain ⟨own, others⟩ := List.forall_mem_cons.mp dark
        intro before lowered listed
        rw [lowerAfter, List.mem_append] at listed
        rcases listed with here | later
        · exact dark_of_mem_lowerLetter own here
        · exact ih others _ lowered later
  exact every []

theorem texts_wordsFrom_dark (start other : Nat) (dark : IsDark text) :
    (wordsFrom start (lower text)).map Piece.text = lowerTexts (wordsFrom other text) := by
  rw [wordsFrom_of_dark dark, wordsFrom_of_dark dark.lower]
  simp only [lower_eq_nil]
  split
  · rfl
  · rfl

/-- The words of the lower-case form of a text are the lower-case forms of its words. -/
theorem texts_wordsFrom_lower (start other : Nat) (text : List Char) :
    (wordsFrom start (lower text)).map Piece.text = lowerTexts (wordsFrom other text) := by
  induction text using blank_induction generalizing start other with
  | dark text dark => exact texts_wordsFrom_dark start other dark
  | blank first bar rest dark blank ih =>
      have barrier := isBarrier_of_isSeparator (isSeparator_of_isBlank blank)
      rw [lower_append_cons barrier, wordsFrom_append_blank blank, wordsFrom_append_blank blank, List.map_append,
        texts_wordsFrom_dark start other dark, ih, lowerTexts, lowerTexts, lowerTexts, List.map_append]

theorem trimEnd_append_blank {letter : Char} (blank : isBlank letter = true) (text : List Char) :
    trimEnd (text ++ [letter]) = trimEnd text := by
  rw [trimEnd, trimEnd, List.reverse_append, List.reverse_singleton, List.singleton_append,
    List.dropWhile_cons_of_pos blank]

/-- Trailing blanks are the same in lower case. -/
theorem trimEnd_lower (text : List Char) : trimEnd (lower text) = lower (trimEnd text) := by
  induction text using List.reverseRecOn with
  | nil => rfl
  | append_singleton text letter ih =>
      cases light : isBlank letter with
      | true =>
          have barrier := isBarrier_of_isSeparator (isSeparator_of_isBlank light)
          rw [trimEnd_append_blank light, ← ih]
          exact (congrArg trimEnd (lower_append_cons barrier text [])).trans (trimEnd_append_blank light _)
      | false =>
          have last : lower (text ++ [letter])
              = lowerBetween [] [letter] text ++ lowerLetter text.reverse letter [] := by
            rw [lower, lowerAfter_append, List.append_nil, lowerAfter, lowerAfter, List.append_nil]
          have dark : ∀ lowered ∈ (lower (text ++ [letter])).getLast?, isBlank lowered = false := by
            intro lowered ends
            rw [last, List.getLast?_append_of_ne_nil _ (lowerLetter_ne_nil _ _ _)] at ends
            exact dark_of_mem_lowerLetter light (List.mem_of_getLast? ends)
          rw [trimEnd_of_dark_last dark, trimEnd_of_dark_last (by simp [light])]

theorem trim_lower (text : List Char) : trim (lower text) = lower (trim text) := by
  rw [trim, trimStart_lower, trimEnd_lower, trim]

/-- The words of a text, each in lower case by itself, are those of the lower-case form. -/
theorem lowerTexts_words_lower (text : List Char) : lowerTexts (words (lower text)) = lowerTexts (words text) := by
  have texts := texts_wordsFrom_lower 0 0 text
  rw [← words_eq, ← words_eq] at texts
  have twice : lowerTexts (words (lower text)) = ((words (lower text)).map Piece.text).map lower := by
    rw [lowerTexts, List.map_map]
    rfl
  rw [twice, texts, lowerTexts, List.map_map]
  exact List.map_congr_left fun word _ => lower_lower word.text

end Text

open Text

/-! ## Tokens and query terms -/

namespace Analysis

theorem texts_wordTokens (position : Nat) (words : List Piece) :
    (wordTokens position words).map Token.text = lowerTexts words := by
  induction words generalizing position with
  | nil => rfl
  | cons word rest ih =>
      rw [wordTokens, List.map_cons, ih]
      rfl

theorem texts_tokens_words (text : List Char) :
    (Analysis.words.tokens text).map Token.text = lowerTexts (Text.words text) :=
  texts_wordTokens 0 (Text.words text)

theorem queryTerms_words_eq (value : List Char) :
    Analysis.words.queryTerms value
      = if lowerTexts (Text.words value) = [] then [[]] else lowerTexts (Text.words value) := by
  rw [queryTerms]
  cases Text.words value with
  | nil => rfl
  | cons word rest => rfl

theorem texts_tokens_lower (analysis : Analysis) (text : List Char) :
    (analysis.tokens (lower text)).map Token.text = (analysis.tokens text).map Token.text := by
  cases analysis with
  | substrings shortest longest => rw [tokens, tokens, lower_lower]
  | words => rw [texts_tokens_words, texts_tokens_words, lowerTexts_words_lower]

theorem queryTerms_lower (analysis : Analysis) (value : List Char) :
    analysis.queryTerms (lower value) = analysis.queryTerms value := by
  cases analysis with
  | substrings shortest longest => rw [queryTerms, queryTerms, lower_lower]
  | words => rw [queryTerms_words_eq, queryTerms_words_eq, lowerTexts_words_lower]

end Analysis

theorem headerScope_lower (name : List Char) : headerScope (lower name) = headerScope name := by
  rw [headerScope, headerScope, trim_lower, lower_lower]

/-! ## Mailboxes -/

namespace Mailbox

theorem named_name_named (text : String) : named (named text).name = named text := by
  simp only [named, lowerString, String.toList_ofList, lower_lower]

theorem ofJson?_toJson_named (text : String) : ofJson? (named text).toJson = some (named text) := by
  rw [toJson, ofJson?, Json.str, Json.text?, Option.map_some, named_name_named]

end Mailbox

/--
A mailbox that a text names is named by its own name, too, and comes back from its JSON text. The tokens of a text,
the query terms of a value and the scope of a header name are those of their lower-case forms.
-/
theorem lower_form_is_stable :
    (∀ text : String, Mailbox.named (Mailbox.named text).name = Mailbox.named text
        ∧ (Json.ofString? (Mailbox.named text).toJson.compact).bind Mailbox.ofJson? = some (Mailbox.named text))
      ∧ ∀ (analysis : Analysis) (text : List Char),
        (analysis.tokens (lower text)).map Token.text = (analysis.tokens text).map Token.text
          ∧ analysis.queryTerms (lower text) = analysis.queryTerms text
          ∧ headerScope (lower text) = headerScope text := by
  refine ⟨fun text => ⟨Mailbox.named_name_named text, ?_⟩, fun analysis text => ⟨?_, ?_, ?_⟩⟩
  · have plain : (Mailbox.named text).toJson.IsPlain := Json.isPlain_str _
    rw [Json.ofString?_compact plain, Option.bind_some, Mailbox.ofJson?_toJson_named]
  · exact analysis.texts_tokens_lower text
  · exact analysis.queryTerms_lower text
  · exact headerScope_lower text

end Letterbox
