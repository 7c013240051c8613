import Letterbox.Proofs.Trimming
import Letterbox.Text.Unfold

/-!
# Folds in unfolded values

Unfolding goes through a value once and puts a space for each fold. A line break that stands directly before a fold
is not part of it, and has a space behind it then. Main statement: an unfolded value holds a fold exactly if there
is such a line break between letters, and only then unfolding it again changes it.
-/

namespace Letterbox.Text

/-- A text holds a fold: a line break directly before a space or a tab. -/
def HoldsFold (text : List Char) : Prop :=
  ∃ before blank after, text = before ++ '\n' :: blank :: after ∧ isFoldBlank blank = true

/-- Somewhere between letters a line break stands directly before a fold. -/
def StacksFold (text : List Char) : Prop :=
  ∃ before gap blank after, text = before ++ '\n' :: (gap ++ '\n' :: blank :: after)
    ∧ (gap = [] ∨ gap = ['\r']) ∧ isFoldBlank blank = true
    ∧ darkLetters before ≠ [] ∧ darkLetters after ≠ []

variable {text first rest before after : List Char} {letter : Char} {folding : Bool}

/-! ## Folds -/

theorem opensFold_iff :
    opensFold text = true ↔ ∃ blank after, text = '\n' :: blank :: after ∧ isFoldBlank blank = true := by
  constructor
  · intro opens
    unfold opensFold at opens
    split at opens
    · next blank after => exact ⟨blank, after, rfl, opens⟩
    · exact absurd opens Bool.false_ne_true
  · rintro ⟨blank, after, rfl, isBlank⟩
    exact isBlank

/-- A fold that goes past a line break would have to go on behind it with a space or a tab. -/
theorem opensFold_append_break (plain : opensFold ('\n' :: rest) = false) (first : List Char) :
    opensFold (first ++ '\n' :: rest) = opensFold first := by
  rcases first with _ | ⟨one, _ | ⟨other, later⟩⟩
  · exact plain
  · by_cases same : one = '\n'
    · subst same
      rfl
    · simp [opensFold, same]
  · by_cases same : one = '\n'
    · subst same
      rfl
    · simp [opensFold, same]

theorem isBlank_of_isFoldBlank (blank : isFoldBlank letter = true) : isBlank letter = true := by
  rw [isFoldBlank, Bool.or_eq_true, beq_iff_eq, beq_iff_eq] at blank
  rcases blank with rfl | rfl
  · rfl
  · rfl

/-! ## Line breaks that stay -/

/-- A line break that opens no fold stays, and behind it joining starts anew. -/
theorem joinFolds_append_break (plain : opensFold ('\n' :: rest) = false) (folding : Bool) (before : List Char) :
    joinFolds folding (before ++ '\n' :: rest) = joinFolds folding before ++ '\n' :: joinFolds false rest := by
  fun_induction joinFolds folding before with
  | case1 folding =>
      rw [List.nil_append, joinFolds, if_neg (by simp [isFoldBlank]), if_neg (by simp), if_neg (by simp [plain])]
      rfl
  | case2 folding letter others skipped ih =>
      rw [List.cons_append, joinFolds, if_pos skipped, ih]
  | case3 folding letter others kept dropped ih =>
      rw [List.cons_append, joinFolds, if_neg kept, opensFold_append_break plain, if_pos dropped, ih]
  | case4 folding letter others kept stays opens ih =>
      have whole : opensFold (letter :: (others ++ '\n' :: rest)) = opensFold (letter :: others) :=
        opensFold_append_break plain (letter :: others)
      rw [List.cons_append, joinFolds, if_neg kept, opensFold_append_break plain, if_neg stays, whole,
        if_pos opens, ih]
      rfl
  | case5 folding letter others kept stays closed ih =>
      have whole : opensFold (letter :: (others ++ '\n' :: rest)) = opensFold (letter :: others) :=
        opensFold_append_break plain (letter :: others)
      rw [List.cons_append, joinFolds, if_neg kept, opensFold_append_break plain, if_neg stays, whole,
        if_neg closed, ih]
      rfl

/-- A line break in the joined text stood in the text before, and opened no fold there. -/
theorem exists_break_of_joinFolds {later : List Char} (joined : joinFolds folding text = first ++ '\n' :: later) :
    ∃ before rest, text = before ++ '\n' :: rest ∧ opensFold ('\n' :: rest) = false
      ∧ joinFolds folding before = first ∧ joinFolds false rest = later := by
  fun_induction joinFolds folding text generalizing first with
  | case1 folding => simp at joined
  | case2 folding letter others skipped ih =>
      obtain ⟨before, rest, rfl, plain, same, found⟩ := ih joined
      exact ⟨letter :: before, rest, rfl, plain, by rw [joinFolds, if_pos skipped, same], found⟩
  | case3 folding letter others kept dropped ih =>
      obtain ⟨before, rest, rfl, plain, same, found⟩ := ih joined
      rw [opensFold_append_break plain] at dropped
      exact ⟨letter :: before, rest, rfl, plain, by rw [joinFolds, if_neg kept, if_pos dropped, same], found⟩
  | case4 folding letter others kept stays opens ih =>
      cases first with
      | nil => simp at joined
      | cons space first =>
          obtain ⟨rfl, behind⟩ := List.cons.inj joined
          obtain ⟨before, rest, rfl, plain, same, found⟩ := ih behind
          rw [opensFold_append_break plain] at stays
          rw [← List.cons_append, opensFold_append_break plain] at opens
          refine ⟨letter :: before, rest, rfl, plain, ?_, found⟩
          rw [joinFolds, if_neg kept, if_neg stays, if_pos opens, same]
  | case5 folding letter others kept stays closed ih =>
      cases first with
      | nil =>
          obtain ⟨rfl, same⟩ := List.cons.inj joined
          exact ⟨[], others, rfl, Bool.eq_false_of_not_eq_true closed, rfl, same⟩
      | cons head first =>
          obtain ⟨rfl, behind⟩ := List.cons.inj joined
          obtain ⟨before, rest, rfl, plain, same, found⟩ := ih behind
          rw [opensFold_append_break plain] at stays
          rw [← List.cons_append, opensFold_append_break plain] at closed
          refine ⟨letter :: before, rest, rfl, plain, ?_, found⟩
          rw [joinFolds, if_neg kept, if_neg stays, if_neg closed, same]

/-! ## Spaces for folds -/

/-- A fold becomes a space. -/
theorem joinFolds_gap {gap : List Char} (isGap : gap = [] ∨ gap = ['\r']) (blank : isFoldBlank letter = true)
    (after : List Char) : joinFolds false (gap ++ '\n' :: letter :: after) = ' ' :: joinFolds true after := by
  have fold : joinFolds false ('\n' :: letter :: after) = ' ' :: joinFolds true after := by
    simp [joinFolds, opensFold, blank]
  rcases isGap with rfl | rfl
  · exact fold
  · rw [List.singleton_append, joinFolds, if_neg (by simp), if_pos (by simpa [opensFold] using blank), fold]

/-- Behind a line break that opens no fold, a space or a tab at the start of the joined text is that of a fold. -/
theorem exists_gap_of_joinFolds {later : List Char} (plain : opensFold ('\n' :: rest) = false)
    (joined : joinFolds false rest = letter :: later) (blank : isFoldBlank letter = true) :
    ∃ gap other after, rest = gap ++ '\n' :: other :: after ∧ (gap = [] ∨ gap = ['\r'])
      ∧ isFoldBlank other = true ∧ joinFolds true after = later := by
  cases rest with
  | nil => simp [joinFolds] at joined
  | cons head others =>
      by_cases dropped : (head == '\r' && opensFold others) = true
      · obtain ⟨carriage, opens⟩ := Bool.and_eq_true_iff.mp dropped
        obtain rfl := beq_iff_eq.mp carriage
        obtain ⟨other, after, rfl, fold⟩ := opensFold_iff.mp opens
        refine ⟨['\r'], other, after, rfl, Or.inr rfl, fold, ?_⟩
        have form := joinFolds_gap (Or.inr rfl) fold after
        rw [List.singleton_append, joined] at form
        exact (List.cons.inj form).2.symm
      · by_cases opens : opensFold (head :: others) = true
        · obtain ⟨other, after, form, fold⟩ := opensFold_iff.mp opens
          refine ⟨[], other, after, form, Or.inl rfl, fold, ?_⟩
          have space := joinFolds_gap (Or.inl rfl) fold after
          rw [List.nil_append, ← form, joined] at space
          exact (List.cons.inj space).2.symm
        · rw [joinFolds, if_neg (by simp), if_neg dropped, if_neg opens] at joined
          obtain ⟨rfl, -⟩ := List.cons.inj joined
          rw [opensFold, blank] at plain
          exact absurd plain Bool.noConfusion

/-- Joining drops and puts blanks only. -/
theorem darkLetters_joinFolds (folding : Bool) (text : List Char) :
    darkLetters (joinFolds folding text) = darkLetters text := by
  fun_induction joinFolds folding text with
  | case1 folding => rfl
  | case2 folding letter rest skipped ih =>
      have blank := isBlank_of_isFoldBlank (Bool.and_eq_true_iff.mp skipped).2
      simpa [darkLetters, blank] using ih
  | case3 folding letter rest kept dropped ih =>
      obtain rfl := beq_iff_eq.mp (Bool.and_eq_true_iff.mp dropped).1
      exact ih
  | case4 folding letter rest kept stays opens ih =>
      obtain ⟨blank, after, form, -⟩ := opensFold_iff.mp opens
      obtain ⟨rfl, -⟩ := List.cons.inj form
      exact ih
  | case5 folding letter rest kept stays closed ih =>
      rw [darkLetters, List.filter_cons, darkLetters, List.filter_cons]
      exact congrArg (fun letters => if (! isBlank letter) = true then letter :: letters else letters) ih

/-- A trimmed text holds a fold exactly if the text holds one between letters. -/
theorem holdsFold_trim_iff : HoldsFold (trim text) ↔ ∃ before blank after, text = before ++ '\n' :: blank :: after
    ∧ isFoldBlank blank = true ∧ darkLetters before ≠ [] ∧ darkLetters after ≠ [] := by
  constructor
  · rintro ⟨before, blank, after, form, fold⟩
    have trimmed := isTrimmed_trim text
    obtain ⟨front, back, split⟩ := trim_isInfix text
    rw [form] at trimmed
    have leading : ∃ letter ∈ before, isBlank letter = false := by
      cases before with
      | nil => exact absurd (trimmed.start '\n' rfl) (by decide)
      | cons letter rest => exact ⟨letter, List.mem_cons_self, trimmed.start letter rfl⟩
    have trailing : ∃ letter ∈ after, isBlank letter = false := by
      have light := isBlank_of_isFoldBlank fold
      rcases List.eq_nil_or_concat after with rfl | ⟨rest, letter, rfl⟩
      · have dark := trimmed.stop blank (by simp)
        rw [light] at dark
        exact absurd dark Bool.noConfusion
      · exact ⟨letter, by simp, trimmed.stop letter (by simp [List.getLast?_cons])⟩
    refine ⟨front ++ before, blank, after ++ back, ?_, fold, ?_, ?_⟩
    · rw [← split, form]
      simp
    · obtain ⟨letter, listed, dark⟩ := leading
      exact darkLetters_ne_nil_iff.mpr ⟨letter, List.mem_append_right _ listed, dark⟩
    · obtain ⟨letter, listed, dark⟩ := trailing
      exact darkLetters_ne_nil_iff.mpr ⟨letter, List.mem_append_left _ listed, dark⟩
  · rintro ⟨before, blank, after, rfl, fold, leading, trailing⟩
    have form := trim_between leading trailing ['\n', blank]
    exact ⟨trimStart before, blank, trimEnd after, form, fold⟩

/-! ## Unfolded values -/

/-- A value that is unfolded once holds a fold where one was stacked. -/
theorem holdsFold_unfold_iff (value : List Char) : HoldsFold (unfold value) ↔ StacksFold value := by
  rw [unfold, holdsFold_trim_iff]
  constructor
  · rintro ⟨first, blank, later, joined, fold, leading, trailing⟩
    obtain ⟨before, rest, rfl, plain, rfl, same⟩ := exists_break_of_joinFolds joined
    obtain ⟨gap, other, after, rfl, isGap, folds, rfl⟩ := exists_gap_of_joinFolds plain same fold
    rw [darkLetters_joinFolds] at leading trailing
    exact ⟨before, gap, other, after, rfl, isGap, folds, leading, trailing⟩
  · rintro ⟨before, gap, blank, after, rfl, isGap, fold, leading, trailing⟩
    have plain : opensFold ('\n' :: (gap ++ '\n' :: blank :: after)) = false := by
      rcases isGap with rfl | rfl
      · rfl
      · rfl
    refine ⟨joinFolds false before, ' ', joinFolds true after, ?_, rfl, ?_, ?_⟩
    · rw [joinFolds_append_break plain, joinFolds_gap isGap fold]
    · rwa [darkLetters_joinFolds]
    · rwa [darkLetters_joinFolds]

theorem joinFolds_of_plain (plain : ¬ HoldsFold text) : joinFolds false text = text := by
  induction text with
  | nil => rfl
  | cons letter rest ih =>
      have behind : ¬ HoldsFold rest := by
        rintro ⟨before, blank, after, rfl, fold⟩
        exact plain ⟨letter :: before, blank, after, rfl, fold⟩
      have closed : ¬ opensFold (letter :: rest) = true := by
        intro opens
        obtain ⟨blank, after, form, fold⟩ := opensFold_iff.mp opens
        exact plain ⟨[], blank, after, form, fold⟩
      have stays : ¬ opensFold rest = true := by
        intro opens
        obtain ⟨blank, after, form, fold⟩ := opensFold_iff.mp opens
        exact behind ⟨[], blank, after, form, fold⟩
      rw [joinFolds, if_neg (by simp), if_neg (by simp [stays]), if_neg closed, ih behind]

theorem length_joinFolds_le (folding : Bool) (text : List Char) : (joinFolds folding text).length ≤ text.length := by
  fun_induction joinFolds folding text with
  | case1 folding => exact Nat.le_refl _
  | case2 folding letter rest skipped ih => exact Nat.le_succ_of_le ih
  | case3 folding letter rest kept dropped ih => exact Nat.le_succ_of_le ih
  | case4 folding letter rest kept stays opens ih => exact Nat.succ_le_succ ih
  | case5 folding letter rest kept stays closed ih => exact Nat.succ_le_succ ih

/-- Joining changes each text that holds a fold. -/
theorem joinFolds_ne_self (holds : HoldsFold text) : joinFolds false text ≠ text := by
  obtain ⟨first, blank, later, form, fold⟩ := holds
  intro same
  obtain ⟨before, rest, split, plain, joined, behind⟩ := exists_break_of_joinFolds (same.trans form)
  have shorter := length_joinFolds_le false before
  have less := length_joinFolds_le false rest
  rw [joined] at shorter
  rw [behind] at less
  -- neither side lost anything, so the line break is the one before the fold
  have whole : first ++ '\n' :: (blank :: later) = before ++ '\n' :: rest := form.symm.trans split
  have lengths := congrArg List.length whole
  simp only [List.length_append, List.length_cons] at lengths less
  obtain ⟨rfl, tail⟩ := List.append_inj whole (by omega)
  obtain ⟨-, rfl⟩ := List.cons.inj tail
  rw [opensFold, fold] at plain
  exact Bool.noConfusion plain

/-- A trimmed value stays as it is exactly if it holds no fold. -/
theorem unfold_eq_self_iff (trimmed : IsTrimmed text) : unfold text = text ↔ ¬ HoldsFold text := by
  constructor
  · intro same holds
    have shorter := length_joinFolds_le false text
    have inner : text <:+: joinFolds false text := by
      have part := trim_isInfix (joinFolds false text)
      rwa [← unfold, same] at part
    exact joinFolds_ne_self holds (inner.eq_of_length_le shorter).symm
  · intro plain
    rw [unfold, joinFolds_of_plain plain, trimmed.trim_eq]

/--
An unfolded value neither starts nor ends with a blank. It holds a line break directly before a space or a tab
exactly if the value has, between letters, a line break directly before a fold; and only then it changes when it
is unfolded again.
-/
theorem unfold_leaves_fold_iff (value : List Char) :
    IsTrimmed (unfold value)
      ∧ (HoldsFold (unfold value) ↔ StacksFold value)
      ∧ (unfold (unfold value) = unfold value ↔ ¬ StacksFold value) := by
  have trimmed : IsTrimmed (unfold value) := isTrimmed_trim _
  refine ⟨trimmed, holdsFold_unfold_iff value, ?_⟩
  rw [unfold_eq_self_iff trimmed, holdsFold_unfold_iff]

/-- An empty line before a line that carries on leaves a fold, which is gone when the value is unfolded again. -/
theorem unfold_leaves_fold_of_empty_line :
    unfold "x\n\n a".toList = "x\n a".toList ∧ HoldsFold (unfold "x\n\n a".toList)
      ∧ unfold (unfold "x\n\n a".toList) = "x a".toList := by
  have once : unfold "x\n\n a".toList = "x\n a".toList := by decide
  refine ⟨once, ⟨['x'], ' ', ['a'], once, rfl⟩, ?_⟩
  rw [once]
  decide

end Letterbox.Text
