import Letterbox.Proofs.FieldSearch

/-!
# Runs of letters

Word analysis cuts a text into words letter by letter. Main statements: the words are the maximal runs of letters
that are not blank, in order and each at its place; and a value is looked up in a field through the runs of the
value, which must each start, in lower case, a run of the texts of the field.
-/

namespace Letterbox

namespace Text

/-- No letter of a text is blank. -/
def IsDark (text : List Char) : Prop :=
  ∀ letter ∈ text, isBlank letter = false

/--
A piece is a maximal run of letters that are not blank in a text that starts at `start`: before it the text starts
or a blank stands, and behind it the text ends or a blank stands.
-/
structure IsRun (start : Nat) (text : List Char) (run : Piece) : Prop where
  proper : run.text ≠ []
  dark : IsDark run.text
  bounded : ∃ before after, text = before ++ (run.text ++ after) ∧ run.offset = start + byteSize before
    ∧ (∀ letter ∈ before.getLast?, isBlank letter = true) ∧ (∀ letter ∈ after.head?, isBlank letter = true)

/-- The words of a text that starts at an offset. -/
def wordsFrom (offset : Nat) (text : List Char) : List Piece :=
  Piece.consNonempty ⟨offset, (cutWords offset text).1⟩ (cutWords offset text).2

theorem words_eq (text : List Char) : words text = wordsFrom 0 text :=
  rfl

variable {offset start : Nat} {text first rest : List Char} {bar : Char} {run : Piece}

/-! ## Words between blanks -/

theorem Piece.consNonempty_append (piece : Piece) (first rest : List Piece) :
    consNonempty piece (first ++ rest) = consNonempty piece first ++ rest := by
  unfold consNonempty
  split
  · rfl
  · rfl

/-- A blank ends the words before it, and those behind it start anew. -/
theorem cutWords_append_blank (blank : isBlank bar = true) (offset : Nat) (first rest : List Char) :
    cutWords offset (first ++ bar :: rest)
      = ((cutWords offset first).1,
        (cutWords offset first).2 ++ wordsFrom (offset + byteSize first + bar.utf8Size) rest) := by
  induction first generalizing offset with
  | nil =>
      rw [List.nil_append, cutWords_cons]
      simp only [blank, if_true]
      rfl
  | cons letter others ih =>
      simp only [List.cons_append, cutWords_cons, ih, byteSize, Nat.add_assoc]
      split
      · rw [Piece.consNonempty_append]
      · rfl

theorem wordsFrom_append_blank (blank : isBlank bar = true) (offset : Nat) (first rest : List Char) :
    wordsFrom offset (first ++ bar :: rest)
      = wordsFrom offset first ++ wordsFrom (offset + byteSize first + bar.utf8Size) rest := by
  rw [wordsFrom, cutWords_append_blank blank, Piece.consNonempty_append]
  rfl

theorem cutWords_of_dark (dark : IsDark text) (offset : Nat) : cutWords offset text = (text, []) := by
  induction text generalizing offset with
  | nil => rfl
  | cons letter others ih =>
      obtain ⟨own, later⟩ := List.forall_mem_cons.mp dark
      rw [cutWords_cons]
      simp only [own, ih later, Bool.false_eq_true, if_false]

/-- A text without blanks is its only word, if it has letters at all. -/
theorem wordsFrom_of_dark (dark : IsDark text) (offset : Nat) :
    wordsFrom offset text = if text = [] then [] else [⟨offset, text⟩] := by
  rw [wordsFrom, cutWords_of_dark dark, Piece.consNonempty]
  simp only [List.isEmpty_iff]

/-- What holds of texts without blanks, and behind a blank of what held of the rest, holds of all texts. -/
theorem blank_induction {holds : List Char → Prop} (dark : ∀ text, IsDark text → holds text)
    (blank : ∀ first bar rest, IsDark first → isBlank bar = true → holds rest → holds (first ++ bar :: rest))
    (text : List Char) : holds text := by
  have split := List.takeWhile_append_dropWhile (p := (! isBlank ·)) (l := text)
  have leading : IsDark (text.takeWhile (! isBlank ·)) := by
    intro letter listed
    simpa using List.mem_takeWhile_imp listed
  cases behind : text.dropWhile (! isBlank ·) with
  | nil =>
      rw [behind, List.append_nil] at split
      exact dark text (split ▸ leading)
  | cons bar rest =>
      have stop : isBlank bar = true := by
        have first := List.head?_dropWhile_not (! isBlank ·) text
        rw [behind] at first
        simpa using first
      rw [behind] at split
      have shorter : rest.length < text.length := by
        have length := congrArg List.length split
        rw [List.length_append, List.length_cons] at length
        omega
      rw [← split]
      exact blank _ bar rest leading stop (blank_induction dark blank rest)
termination_by text.length

/-! ## Words are maximal runs -/

/-- A run of what stands behind a blank is a run of the whole. -/
theorem IsRun.behind (isRun : IsRun (start + byteSize first + bar.utf8Size) rest run)
    (blank : isBlank bar = true) : IsRun start (first ++ bar :: rest) run := by
  obtain ⟨proper, dark, before, after, rfl, offset, left, right⟩ := isRun
  refine ⟨proper, dark, first ++ bar :: before, after, by simp, ?_, ?_, right⟩
  · rw [offset, byteSize_append, byteSize]
    omega
  · intro letter last
    rw [List.getLast?_append_cons, List.getLast?_cons] at last
    cases ends : before.getLast? with
    | none =>
        rw [ends, Option.getD_none] at last
        exact Option.some.inj last ▸ blank
    | some other =>
        rw [ends, Option.getD_some] at last
        exact Option.some.inj last ▸ left other ends

theorem isRun_of_mem_wordsFrom (listed : run ∈ wordsFrom start text) : IsRun start text run := by
  induction text using blank_induction generalizing start with
  | dark text dark =>
      rw [wordsFrom_of_dark dark] at listed
      split at listed
      · simp at listed
      · next proper =>
        obtain rfl := List.mem_singleton.mp listed
        exact ⟨proper, dark, [], [], by simp, rfl, by simp, by simp⟩
  | blank first bar rest dark blank ih =>
      rw [wordsFrom_append_blank blank, wordsFrom_of_dark dark] at listed
      rcases List.mem_append.mp listed with own | later
      · split at own
        · simp at own
        · next proper =>
          obtain rfl := List.mem_singleton.mp own
          refine ⟨proper, dark, [], bar :: rest, rfl, rfl, by simp, fun letter head => ?_⟩
          exact Option.some.inj head ▸ blank
      · exact (ih later).behind blank

/-- A run is the only word of itself, and the blanks around it leave it so. -/
theorem IsRun.mem_wordsFrom (isRun : IsRun start text run) : run ∈ wordsFrom start text := by
  obtain ⟨proper, dark, before, after, rfl, offset, left, right⟩ := isRun
  have single : ∀ place, wordsFrom place run.text = [⟨place, run.text⟩] := fun place => by
    rw [wordsFrom_of_dark dark, if_neg proper]
  have starts : ∀ place, ⟨place, run.text⟩ ∈ wordsFrom place (run.text ++ after) := by
    intro place
    cases after with
    | nil =>
        rw [List.append_nil, single]
        exact List.mem_singleton.mpr rfl
    | cons bar back =>
        rw [wordsFrom_append_blank (right bar rfl), single]
        exact List.mem_cons_self
  rcases List.eq_nil_or_concat before with rfl | ⟨front, bar, rfl⟩
  · have form : run = ⟨start, run.text⟩ := by
      cases run
      simpa [byteSize] using offset
    rw [form]
    exact starts start
  · have form : run = ⟨start + byteSize front + bar.utf8Size, run.text⟩ := by
      cases run
      simpa [byteSize, Nat.add_assoc] using offset
    have blank : isBlank bar = true := left bar (by simp)
    rw [List.concat_eq_append, List.append_assoc, List.singleton_append, wordsFrom_append_blank blank, form]
    exact List.mem_append_right _ (starts _)

theorem mem_words_iff : run ∈ words text ↔ IsRun 0 text run :=
  ⟨isRun_of_mem_wordsFrom, IsRun.mem_wordsFrom⟩

theorem IsRun.start_le (isRun : IsRun start text run) : start ≤ run.offset := by
  obtain ⟨before, after, -, offset, -, -⟩ := isRun.bounded
  rw [offset]
  exact Nat.le_add_right _ _

/-- Between two words stands a blank. -/
theorem ordered_wordsFrom (start : Nat) (text : List Char) :
    (wordsFrom start text).Pairwise fun one other => one.stop < other.offset := by
  induction text using blank_induction generalizing start with
  | dark text dark =>
      rw [wordsFrom_of_dark dark]
      split
      · exact .nil
      · exact List.pairwise_singleton _ _
  | blank first bar rest dark blank ih =>
      rw [wordsFrom_append_blank blank, wordsFrom_of_dark dark]
      refine List.pairwise_append.mpr ⟨?_, ih _, fun one own other later => ?_⟩
      · split
        · exact .nil
        · exact List.pairwise_singleton _ _
      · split at own
        · simp at own
        · obtain rfl := List.mem_singleton.mp own
          have behind := (isRun_of_mem_wordsFrom later).start_le
          exact (Nat.lt_add_of_pos_right bar.utf8Size_pos).trans_le behind

end Text

open Text

/-! ## Tokens -/

/-- The token of a word at a position. -/
def Token.ofWord (position : Nat) (word : Piece) : Token :=
  ⟨lower word.text, word.offset, word.stop, position, 1⟩

/-- Words become tokens in turn. -/
theorem wordTokens_eq (position : Nat) (words : List Piece) :
    wordTokens position words = words.mapIdx fun turn word => Token.ofWord (position + turn) word := by
  induction words generalizing position with
  | nil => rfl
  | cons word rest ih =>
      rw [wordTokens, ih, List.mapIdx_cons]
      simp only [Nat.add_assoc, Nat.add_comm 1]
      rfl

theorem Analysis.tokens_words (text : List Char) :
    Analysis.words.tokens text = (Text.words text).mapIdx Token.ofWord := by
  rw [tokens, wordTokens_eq]
  simp only [Nat.zero_add]

/-! ## Searches for words -/

/-- The texts of a field are analysed as they stand. -/
def Field.IsAnalysed : Field → Prop
  | .headers | .body | .addresses _ => True
  | _ => False

theorem Field.IsAnalysed.termsOf_eq {field : Field} (analysed : field.IsAnalysed) (analysis : Analysis)
    (text : List Char) : analysis.termsOf field text = (analysis.tokens text).map (·.text) := by
  cases field with
  | headers => rfl
  | body => rfl
  | addresses role => rfl
  | _ => exact analysed.elim

/-- A run of the texts of a field that is short enough to be indexed starts, in lower case, with some letters. -/
def Document.HasRun (document : Document) (field : Field) (start : List Char) : Prop :=
  ∃ text : String, .text text ∈ document.values field ∧ ∃ run, IsRun 0 text.toList run
    ∧ isKept (lower run.text) = true ∧ start <+: lower run.text

theorem Document.hasStart_words_iff {document : Document} {field : Field} (analysed : field.IsAnalysed)
    {start : Term} : document.HasStart .words field start ↔ document.HasRun field start := by
  simp only [HasStart, mem_terms, analysed.termsOf_eq, Analysis.tokens_words, HasRun, ← mem_words_iff]
  constructor
  · rintro ⟨term, ⟨⟨text, held, listed⟩, kept⟩, leads⟩
    obtain ⟨token, found, rfl⟩ := List.mem_map.mp listed
    obtain ⟨turn, inside, rfl⟩ := List.mem_mapIdx.mp found
    exact ⟨text, held, _, List.getElem_mem inside, kept, leads⟩
  · rintro ⟨text, held, word, listed, kept, leads⟩
    obtain ⟨turn, inside, rfl⟩ := List.getElem_of_mem listed
    refine ⟨_, ⟨⟨text, held, List.mem_map.mpr ⟨Token.ofWord turn _, ?_, rfl⟩⟩, kept⟩, leads⟩
    exact List.mem_mapIdx.mpr ⟨turn, inside, rfl⟩

/-- What is looked up for a value are its words, or nothing in particular if it has none. -/
theorem Analysis.mem_queryTerms_words {value term : List Char} :
    term ∈ Analysis.words.queryTerms value
      ↔ (∃ run, IsRun 0 value run ∧ term = lower run.text) ∨ (¬ ∃ run, IsRun 0 value run) ∧ term = [] := by
  simp only [← mem_words_iff]
  rw [queryTerms]
  split
  · next none => simp [none]
  · next some =>
    have word : ∃ run, run ∈ Text.words value := List.exists_mem_of_ne_nil _ some
    rw [List.mem_map, or_iff_left fun absent => absent.1 word]
    simp only [eq_comm]

/--
Under word analysis the tokens of a text are its maximal runs of letters that are not blank, in order, each
lower-cased by itself, with the place of the run in the text and numbered from zero. In a field all query terms of a
value start indexed terms exactly if each run of the value, lower-cased by itself, starts a run of the texts of the
field, lower-cased by itself; for a value without runs, if these have a run at all.
-/
theorem Analysis.words_exact :
    (∀ text, ∃ runs : List Piece, (∀ run, run ∈ runs ↔ IsRun 0 text run)
        ∧ runs.Pairwise (fun one other => one.stop < other.offset)
        ∧ Analysis.words.tokens text
          = runs.mapIdx fun position run => ⟨lower run.text, run.offset, run.stop, position, 1⟩)
      ∧ ∀ (document : Document) (field : Field) (value : String), field.IsAnalysed →
        ((∀ start ∈ Analysis.words.queryTerms value.toList,
            ∃ term ∈ document.terms .words field, start <+: term)
          ↔ (∀ wanted, IsRun 0 value.toList wanted → document.HasRun field (lower wanted.text))
            ∧ ((¬ ∃ wanted, IsRun 0 value.toList wanted) → ∃ text : String, .text text ∈ document.values field
              ∧ ∃ run, IsRun 0 text.toList run ∧ isKept (lower run.text) = true)) := by
  refine ⟨fun text => ⟨Text.words text, fun run => mem_words_iff, ordered_wordsFrom 0 text, tokens_words text⟩, ?_⟩
  intro document field value analysed
  have found : ∀ start, (∃ term ∈ document.terms .words field, start <+: term) ↔ document.HasRun field start :=
    fun start => Document.hasStart_words_iff analysed
  simp only [found, mem_queryTerms_words]
  constructor
  · intro every
    refine ⟨fun wanted isRun => every _ (Or.inl ⟨wanted, isRun, rfl⟩), fun none => ?_⟩
    obtain ⟨text, held, run, isRun, kept, -⟩ := every [] (Or.inr ⟨none, rfl⟩)
    exact ⟨text, held, run, isRun, kept⟩
  · rintro ⟨each, any⟩ start (⟨wanted, isRun, rfl⟩ | ⟨none, rfl⟩)
    · exact each wanted isRun
    · obtain ⟨text, held, run, isRun, kept⟩ := any none
      exact ⟨text, held, run, isRun, kept, List.nil_prefix⟩

/-- A letter of three words, the last one behind an ideographic space. -/
def reportLetter : Document :=
  .content ⟨⟨"inbox"⟩, 1, 0, 0, .epoch, [], ["The  Quarterly\u3000REPORT"]⟩

/-- Starts of its words find the letter, in any order; the end of a word does not. -/
theorem Analysis.words_exact_report :
    Field.IsAnalysed .body
      ∧ (∀ start ∈ Analysis.words.queryTerms " REP quart".toList,
          ∃ term ∈ reportLetter.terms .words .body, start <+: term)
      ∧ ¬ ∀ start ∈ Analysis.words.queryTerms "eport".toList,
          ∃ term ∈ reportLetter.terms .words .body, start <+: term := by
  have held : .text "The  Quarterly\u3000REPORT" ∈ reportLetter.values .body := List.mem_singleton.mpr rfl
  have runs : Text.words "The  Quarterly\u3000REPORT".toList
      = [⟨0, "The".toList⟩, ⟨5, "Quarterly".toList⟩, ⟨17, "REPORT".toList⟩] := by decide +kernel
  refine ⟨trivial, (words_exact.2 _ .body _ trivial).mpr ⟨fun wanted isRun => ?_, fun none => ?_⟩, fun every => ?_⟩
  · have asked : Text.words " REP quart".toList = [⟨1, "REP".toList⟩, ⟨5, "quart".toList⟩] := by decide +kernel
    rw [← mem_words_iff, asked] at isRun
    rcases List.mem_cons.mp isRun with rfl | later
    · exact ⟨_, held, ⟨17, "REPORT".toList⟩, mem_words_iff.mp (by rw [runs]; simp), by decide +kernel,
        by decide +kernel⟩
    · obtain rfl := List.mem_singleton.mp later
      exact ⟨_, held, ⟨5, "Quarterly".toList⟩, mem_words_iff.mp (by rw [runs]; simp), by decide +kernel,
        by decide +kernel⟩
  · exact absurd ⟨⟨1, "REP".toList⟩, mem_words_iff.mp (by decide +kernel)⟩ none
  · have own : IsRun 0 "eport".toList ⟨0, "eport".toList⟩ := mem_words_iff.mp (by decide +kernel)
    obtain ⟨text, other, run, isRun, -, leads⟩ := ((words_exact.2 _ .body _ trivial).mp every).1 _ own
    obtain rfl := Value.text.inj (List.mem_singleton.mp other)
    rw [← mem_words_iff, runs] at isRun
    have apart : ∀ run ∈ ([⟨0, "The".toList⟩, ⟨5, "Quarterly".toList⟩, ⟨17, "REPORT".toList⟩] : List Piece),
        ¬ lower "eport".toList <+: lower run.text := by decide +kernel
    exact apart run isRun leads

end Letterbox
