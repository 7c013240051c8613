import Letterbox.Criterion.Query
import Letterbox.Proofs.HeaderNames

/-!
# Criteria that can be answered

A criterion is checked before it becomes a query, and each of the two walks over it can fail. Main statement: the
check refuses a criterion for the first of its conditions, from left to right, that cannot be answered, and accepts
it if there is none; the translation fails for the first comparison of a header with a date, and for nothing else.
-/

namespace Letterbox

open Text

/-- Of two cuts of a list at the first member of a kind, both are at the same member. -/
theorem first_unique {α : Type} (kind : α → Prop) {before after front back : List α} {one other : α}
    (same : before ++ one :: after = front ++ other :: back) (clean : ∀ member ∈ before, ¬ kind member)
    (found : kind one) (clear : ∀ member ∈ front, ¬ kind member) (met : kind other) : one = other := by
  rcases List.append_eq_append_iff.mp same with ⟨more, rfl, rest⟩ | ⟨more, rfl, rest⟩
  · cases more with
    | nil => exact (List.cons.inj rest).1
    | cons head others =>
        obtain ⟨rfl, -⟩ := List.cons.inj rest
        exact absurd found (clear one (by simp))
  · cases more with
    | nil => exact (List.cons.inj rest).1.symm
    | cons head others =>
        obtain ⟨rfl, -⟩ := List.cons.inj rest
        exact absurd met (clean other (by simp))

theorem trim_isEmpty_iff {text : List Char} :
    (trim text).isEmpty = true ↔ ∀ letter ∈ text, isBlank letter = true := by
  rw [List.isEmpty_iff]
  constructor
  · intro empty letter listed
    by_contra dark
    have kept := mem_trim_of_dark (Bool.not_eq_true _ ▸ dark) listed
    rw [empty] at kept
    simp at kept
  · intro blank
    rw [trim, trimStart, List.dropWhile_eq_nil_iff.mpr blank]
    rfl

namespace Criterion

/-! ## The conditions of a criterion -/

mutual

/-- The conditions of a criterion, from left to right; one that joins others stands before them. -/
def nodes : Criterion → List Criterion
  | and criteria => and criteria :: nodesOf criteria
  | or criteria => or criteria :: nodesOf criteria
  | nor criteria => nor criteria :: nodesOf criteria
  | all => [all]
  | uid ranges => [uid ranges]
  | size test => [size test]
  | modSeq test => [modSeq test]
  | internalDate test => [internalDate test]
  | header name test => [header name test]
  | flag wanted isSet => [flag wanted isSet]
  | text scope value => [text scope value]

/-- The conditions of several criteria. -/
def nodesOf : List Criterion → List Criterion
  | [] => []
  | criterion :: rest => criterion.nodes ++ nodesOf rest

end

/-- A condition that cannot be answered, by itself, and the failure that says so. -/
inductive Offends : Criterion → Failure → Prop
  /-- A header is compared with a date, whatever its name is. -/
  | date (name : String) (test : DateTest) : Offends (header name (.date test)) (.headerDate name)
  /-- A header has only blanks for a name. -/
  | nameless {name : String} {test : HeaderTest} : (∀ letter ∈ name.toList, isBlank letter = true) →
      (∀ date, test ≠ .date date) → Offends (header name test) .headerNameMissing
  /-- The first range whose ends are out of order. -/
  | unordered {ranges before after : List UidRange} {range : UidRange} :
      ranges = before ++ range :: after → (∀ one ∈ before, one.first ≤ one.last) → range.last < range.first →
        Offends (uid ranges) (.unorderedRange range)

/-- A condition that compares a header with a date, and the failure that says so. -/
inductive AsksDate : Criterion → Failure → Prop
  | date (name : String) (test : DateTest) : AsksDate (header name (.date test)) (.headerDate name)

/--
No header of a criterion is compared with a date, each has a name with a letter that is not blank, and the ends of
each range are in order.
-/
structure IsAnswerable (criterion : Criterion) : Prop where
  undated : ∀ name test, header name (.date test) ∉ criterion.nodes
  named : ∀ name test, header name test ∈ criterion.nodes → ∃ letter ∈ name.toList, isBlank letter = false
  ordered : ∀ ranges, uid ranges ∈ criterion.nodes → ∀ range ∈ ranges, range.first ≤ range.last

variable {criterion node : Criterion} {failure other : Failure} {nodes rest : List Criterion}

theorem Offends.unique (one : Offends node failure) (two : Offends node other) : failure = other := by
  cases one with
  | date name test =>
      cases two with
      | date => rfl
      | nameless _ undated => exact absurd rfl (undated test)
  | nameless _ undated =>
      cases two with
      | date name test => exact absurd rfl (undated test)
      | nameless => rfl
  | unordered split clean found =>
      cases two with
      | unordered cut clear met =>
          have same := first_unique (fun range : UidRange => range.last < range.first) (split.symm.trans cut)
            (fun one listed => UInt64.not_lt.mpr (clean one listed)) found
            (fun one listed => UInt64.not_lt.mpr (clear one listed)) met
          rw [same]

theorem AsksDate.offends (asks : AsksDate node failure) : Offends node failure := by
  cases asks
  exact .date _ _

theorem AsksDate.unique (one : AsksDate node failure) (two : AsksDate node other) : failure = other := by
  cases one
  cases two
  rfl

/-- A comparison with a date is not supported, and anything else is a mistake of the caller. -/
theorem Offends.code_eq (offends : Offends node failure) :
    (∃ name test, node = header name (.date test)) ∧ failure.code = .unsupportedQuery
      ∨ (¬ ∃ name test, node = header name (.date test)) ∧ failure.code = .invalidParameter := by
  cases offends with
  | date name test => exact Or.inl ⟨⟨name, test, rfl⟩, rfl⟩
  | nameless _ undated =>
      refine Or.inr ⟨?_, rfl⟩
      rintro ⟨name, test, same⟩
      exact undated test (Criterion.header.inj same).2
  | unordered =>
      refine Or.inr ⟨?_, rfl⟩
      rintro ⟨name, test, same⟩
      exact Criterion.noConfusion same

theorem isAnswerable_iff :
    criterion.IsAnswerable ↔ ∀ node ∈ criterion.nodes, ∀ failure, ¬ Offends node failure := by
  constructor
  · rintro ⟨undated, named, ordered⟩ node listed failure offends
    cases offends with
    | date name test => exact undated name test listed
    | nameless blank =>
        obtain ⟨letter, present, dark⟩ := named _ _ listed
        simp [blank letter present] at dark
    | @unordered ranges before after range split clean found =>
        have member : range ∈ ranges := by
          rw [split]
          simp
        exact UInt64.not_le.mpr found (ordered ranges listed range member)
  · intro clean
    have undated : ∀ name test, header name (.date test) ∉ criterion.nodes := fun name test listed =>
      clean _ listed _ (.date name test)
    refine ⟨undated, fun name test listed => ?_, fun ranges listed range member => ?_⟩
    · by_contra nameless
      refine clean _ listed _ (.nameless (fun letter present => ?_) fun date same => ?_)
      · by_contra dark
        exact nameless ⟨letter, present, Bool.not_eq_true _ ▸ dark⟩
      · exact undated name date (same ▸ listed)
    · by_contra wrong
      -- among the ranges out of order there is a first one
      obtain ⟨first, found⟩ := Option.isSome_iff_exists.mp
        (List.find?_isSome (p := fun one : UidRange => ! one.isOrdered).mpr
          ⟨range, member, by simpa [UidRange.isOrdered] using wrong⟩)
      obtain ⟨disordered, before, after, split, clear⟩ := List.find?_eq_some_iff_append.mp found
      refine clean _ listed _ (.unordered split (fun one early => ?_) ?_)
      · simpa [UidRange.isOrdered] using clear one early
      · simpa [UidRange.isOrdered] using disordered

/-! ## The first offence -/

section FirstOffence

variable {α β : Type} {offends : Criterion → Failure → Prop} {result : Except Failure α}

/-- A walk over some conditions fails as the first one that offends tells, and succeeds if none does. -/
def FirstOffence (offends : Criterion → Failure → Prop) (nodes : List Criterion) : Except Failure α → Prop
  | .ok _ => ∀ node ∈ nodes, ∀ failure, ¬ offends node failure
  | .error failure => ∃ before node after, nodes = before ++ node :: after
      ∧ (∀ earlier ∈ before, ∀ other, ¬ offends earlier other) ∧ offends node failure

namespace FirstOffence

/-- A walk that fails does not come to the conditions behind. -/
theorem failed (first : FirstOffence offends nodes (.error failure : Except Failure α)) (rest : List Criterion) :
    FirstOffence offends (nodes ++ rest) (.error failure : Except Failure β) := by
  obtain ⟨before, node, after, rfl, clean, found⟩ := first
  exact ⟨before, node, after ++ rest, by simp, clean, found⟩

/-- A walk that succeeds goes on with the conditions behind. -/
theorem passed {value : α} {next : Except Failure β}
    (first : FirstOffence offends nodes (.ok value : Except Failure α)) (later : FirstOffence offends rest next) :
    FirstOffence offends (nodes ++ rest) next := by
  cases next with
  | ok value =>
      intro node listed
      rcases List.mem_append.mp listed with early | late
      · exact first node early
      · exact later node late
  | error failure =>
      obtain ⟨before, node, after, rfl, clean, found⟩ := later
      refine ⟨nodes ++ before, node, after, by simp, fun earlier listed => ?_, found⟩
      rcases List.mem_append.mp listed with early | late
      · exact first earlier early
      · exact clean earlier late

/-- A condition that never offends is passed. -/
theorem behind (clean : ∀ failure, ¬ offends node failure) (later : FirstOffence offends rest result) :
    FirstOffence offends (node :: rest) result := by
  have alone : FirstOffence offends [node] (.ok () : Except Failure Unit) := by
    intro one listed
    obtain rfl := List.mem_singleton.mp listed
    exact clean
  exact alone.passed later

theorem single {value : α} (clean : ∀ failure, ¬ offends node failure) :
    FirstOffence offends [node] (.ok value : Except Failure α) :=
  behind clean fun _ listed => absurd listed List.not_mem_nil

theorem single_error (found : offends node failure) :
    FirstOffence offends [node] (.error failure : Except Failure α) :=
  ⟨[], node, [], rfl, fun _ listed => absurd listed List.not_mem_nil, found⟩

/-- What a walk gives does not matter for where it fails. -/
theorem mapped {value : α} {other : β} (first : FirstOffence offends nodes (.ok value : Except Failure α)) :
    FirstOffence offends nodes (.ok other : Except Failure β) :=
  first

theorem exists_ok_iff (first : FirstOffence offends nodes result) :
    (∃ value, result = .ok value) ↔ ∀ node ∈ nodes, ∀ failure, ¬ offends node failure := by
  cases result with
  | ok value => exact ⟨fun _ => first, fun _ => ⟨value, rfl⟩⟩
  | error failure =>
      obtain ⟨before, node, after, rfl, -, found⟩ := first
      constructor
      · rintro ⟨value, same⟩
        cases same
      · intro clean
        exact absurd found (clean node (by simp) failure)

theorem error_iff (unique : ∀ {node failure other}, offends node failure → offends node other → failure = other)
    (first : FirstOffence offends nodes result) :
    result = .error failure ↔ ∃ before node after, nodes = before ++ node :: after
      ∧ (∀ earlier ∈ before, ∀ other, ¬ offends earlier other) ∧ offends node failure := by
  constructor
  · rintro rfl
    exact first
  · rintro ⟨before, node, after, split, clean, found⟩
    cases result with
    | ok value =>
        subst split
        exact absurd found (first node (by simp) failure)
    | error reported =>
        obtain ⟨front, one, back, cut, clear, met⟩ := first
        have same : node = one := first_unique (fun node => ∃ failure, offends node failure)
          (split.symm.trans cut) (fun earlier listed ⟨other, offence⟩ => clean earlier listed other offence)
          ⟨failure, found⟩ (fun earlier listed ⟨other, offence⟩ => clear earlier listed other offence)
          ⟨reported, met⟩
        subst same
        rw [unique met found]

end FirstOffence

end FirstOffence

/-! ## The check -/

theorem firstOffence_checkName (name : String) (test : HeaderTest) :
    FirstOffence Offends [header name test] (test.check name) := by
  have undated : ∀ {test : HeaderTest}, (∀ date, test ≠ .date date) →
      FirstOffence Offends [header name test]
        (if (trim name.toList).isEmpty then .error .headerNameMissing else .ok () : Except Failure Unit) := by
    intro test undated
    split
    · next empty => exact .single_error (.nameless (trim_isEmpty_iff.mp empty) undated)
    · next named =>
      refine .single fun failure offends => ?_
      cases offends with
      | date name date => exact undated date rfl
      | nameless blank => exact named (trim_isEmpty_iff.mpr blank)
  cases test with
  | date test => exact .single_error (.date name test)
  | contains value => exact undated fun date => HeaderTest.noConfusion
  | present => exact undated fun date => HeaderTest.noConfusion
  | address value => exact undated fun date => HeaderTest.noConfusion

theorem firstOffence_checkRanges (ranges : List UidRange) :
    FirstOffence Offends [uid ranges] (UidRange.checkAll ranges) := by
  unfold UidRange.checkAll
  split
  · next range found =>
    obtain ⟨disordered, before, after, split, clear⟩ := List.find?_eq_some_iff_append.mp found
    refine .single_error (.unordered split (fun one early => ?_) ?_)
    · simpa [UidRange.isOrdered] using clear one early
    · simpa [UidRange.isOrdered] using disordered
  · next none =>
    refine .single fun failure offends => ?_
    cases offends with
    | @unordered _ before after range split clean found =>
        have ordered := List.find?_eq_none.mp none range (by rw [split]; simp)
        simp only [UidRange.isOrdered, Bool.not_eq_true', decide_eq_false_iff_not, not_not] at ordered
        exact UInt64.not_le.mpr found ordered

mutual

/-- The check of a criterion fails for its first condition that offends. -/
theorem firstOffence_validate : ∀ criterion : Criterion, FirstOffence Offends criterion.nodes criterion.validate
  | all | size _ | modSeq _ | internalDate _ | flag _ _ | text _ _ => by
      simp only [Criterion.nodes, validate]
      exact .single fun failure => nofun
  | header name test => by
      rw [Criterion.nodes, validate]
      exact firstOffence_checkName name test
  | uid ranges => by
      rw [Criterion.nodes, validate]
      exact firstOffence_checkRanges ranges
  | and criteria | or criteria | nor criteria => by
      -- a junction is never wrong by itself, so its members decide
      rw [Criterion.nodes, validate]
      exact .behind (fun failure => nofun) (firstOffence_validateAll criteria)

theorem firstOffence_validateAll :
    ∀ criteria : List Criterion, FirstOffence Offends (nodesOf criteria) (validateAll criteria)
  | [] => by
      rw [nodesOf, validateAll]
      exact fun _ listed => absurd listed List.not_mem_nil
  | criterion :: rest => by
      have first := firstOffence_validate criterion
      rw [nodesOf, validateAll]
      split
      · next refused =>
        rw [refused] at first
        exact first.failed _
      · next accepted =>
        rw [accepted] at first
        exact first.passed (firstOffence_validateAll rest)

end

/-! ## The translation -/

variable (snapshot : Snapshot) (mailbox : Mailbox) (analysis : Analysis)

theorem firstOffence_headerQuery (name : String) (test : HeaderTest) :
    FirstOffence AsksDate [header name test] (test.query? analysis name) := by
  cases test with
  | date test => exact .single_error (.date name test)
  | contains value => exact .single fun failure => nofun
  | present => exact .single fun failure => nofun
  | address value =>
      rw [HeaderTest.query?]
      split
      · exact .single fun failure => nofun
      · exact .single fun failure => nofun

mutual

/-- The query for a criterion fails for its first comparison of a header with a date. -/
theorem firstOffence_query? :
    ∀ criterion : Criterion, FirstOffence AsksDate criterion.nodes (criterion.query? snapshot mailbox analysis)
  | all | uid _ | size _ | modSeq _ | internalDate _ | flag _ _ | text _ _ => by
      rw [Criterion.nodes, query?]
      exact .single fun failure => nofun
  | header name test => by
      rw [Criterion.nodes, query?]
      exact firstOffence_headerQuery analysis name test
  | and criteria => by
      have each := firstOffence_queries? criteria
      rw [Criterion.nodes, query?]
      refine .behind (fun failure => nofun) ?_
      split
      · next refused =>
        rw [refused] at each
        simpa using each.failed []
      · next none =>
        rw [none] at each
        exact each.mapped
      · next queries _ some =>
        rw [some] at each
        exact each.mapped
  | or criteria | nor criteria => by
      have each := firstOffence_queries? criteria
      rw [Criterion.nodes, query?]
      refine .behind (fun failure => nofun) ?_
      split
      · next refused =>
        rw [refused] at each
        simpa using each.failed []
      · next queries found =>
        rw [found] at each
        exact each.mapped

theorem firstOffence_queries? :
    ∀ criteria : List Criterion,
      FirstOffence AsksDate (nodesOf criteria) (queries? snapshot mailbox analysis criteria)
  | [] => by
      rw [nodesOf, queries?]
      exact fun _ listed => absurd listed List.not_mem_nil
  | criterion :: rest => by
      have first := firstOffence_query? criterion
      have others := firstOffence_queries? rest
      rw [nodesOf, queries?]
      split
      · next refused =>
        rw [refused] at first
        exact first.failed _
      · next query accepted =>
        rw [accepted] at first
        refine first.passed ?_
        split
        · next refused =>
          rw [refused] at others
          simpa using others.failed []
        · next queries found =>
          rw [found] at others
          exact others.mapped

end

theorem firstOffence_translate (criterion : Criterion) :
    FirstOffence AsksDate criterion.nodes (criterion.translate snapshot mailbox analysis) := by
  have first := firstOffence_query? snapshot mailbox analysis criterion
  rw [translate]
  split
  · next refused =>
    rw [refused] at first
    simpa using first.failed []
  · next query found =>
    rw [found] at first
    exact first.mapped

variable {snapshot : Snapshot} {mailbox : Mailbox} {analysis : Analysis}

/-- A valid criterion has a query. -/
theorem exists_query? (valid : criterion.validate = .ok ()) :
    ∃ query, criterion.query? snapshot mailbox analysis = .ok query := by
  have clean := (firstOffence_validate criterion).exists_ok_iff.mp ⟨(), valid⟩
  refine (firstOffence_query? snapshot mailbox analysis criterion).exists_ok_iff.mpr ?_
  intro node listed failure asks
  exact clean node listed failure asks.offends

/-- The translation fails for the first comparison with a date. -/
theorem translate_error_iff :
    criterion.translate snapshot mailbox analysis = .error failure
      ↔ ∃ before node after, criterion.nodes = before ++ node :: after
        ∧ (∀ earlier ∈ before, ∀ other, ¬ AsksDate earlier other) ∧ AsksDate node failure :=
  (firstOffence_translate snapshot mailbox analysis criterion).error_iff AsksDate.unique

theorem exists_translate_iff :
    (∃ query, criterion.translate snapshot mailbox analysis = .ok query)
      ↔ ∀ name test, header name (.date test) ∉ criterion.nodes := by
  rw [(firstOffence_translate snapshot mailbox analysis criterion).exists_ok_iff]
  constructor
  · intro clean name test listed
    exact clean _ listed _ (.date name test)
  · intro undated node listed failure asks
    cases asks with
    | date name test => exact undated name test listed

/-- No other failure of the translation is there. -/
theorem code_of_translate (failed : criterion.translate snapshot mailbox analysis = .error failure) :
    failure.code = .unsupportedQuery := by
  obtain ⟨before, node, after, -, -, asks⟩ := translate_error_iff.mp failed
  cases asks
  rfl

/-! ## Which criteria are answered -/

/--
The check accepts exactly the criteria that can be answered and reports the first condition that offends; what it
accepts has a query, in every snapshot, and only a comparison with a date leaves a criterion without one.
-/
theorem validate_exact (criterion : Criterion) :
    (criterion.validate = .ok () ↔ criterion.IsAnswerable)
      ∧ (∀ failure, criterion.validate = .error failure
        ↔ ∃ before node after, criterion.nodes = before ++ node :: after
          ∧ (∀ earlier ∈ before, ∀ other, ¬ Offends earlier other) ∧ Offends node failure)
      ∧ (∀ node failure, Offends node failure →
        (∃ name test, node = header name (.date test)) ∧ failure.code = .unsupportedQuery
          ∨ (¬ ∃ name test, node = header name (.date test)) ∧ failure.code = .invalidParameter)
      ∧ ∀ snapshot mailbox analysis,
        (criterion.validate = .ok () → ∃ query, criterion.translate snapshot mailbox analysis = .ok query)
          ∧ ((∃ failure, criterion.translate snapshot mailbox analysis = .error failure
              ∧ failure.code = .unsupportedQuery)
            ↔ ∃ name test, header name (.date test) ∈ criterion.nodes) := by
  have first := firstOffence_validate criterion
  have accepted : criterion.validate = .ok () ↔ criterion.IsAnswerable := by
    rw [isAnswerable_iff, ← first.exists_ok_iff]
    exact ⟨fun accepted => ⟨(), accepted⟩, fun ⟨_, accepted⟩ => accepted⟩
  refine ⟨accepted, fun failure => first.error_iff Offends.unique, fun node failure => Offends.code_eq,
    fun snapshot mailbox analysis => ⟨fun valid => ?_, ?_, ?_⟩⟩
  · exact exists_translate_iff.mpr (accepted.mp valid).undated
  · rintro ⟨failure, failed, -⟩
    obtain ⟨before, node, after, split, -, asks⟩ := translate_error_iff.mp failed
    cases asks with
    | date name test =>
        refine ⟨name, test, ?_⟩
        rw [split]
        simp
  · rintro ⟨name, test, listed⟩
    cases translated : criterion.translate snapshot mailbox analysis with
    | ok query => exact absurd listed (exists_translate_iff.mp ⟨query, translated⟩ name test)
    | error failure => exact ⟨failure, rfl, code_of_translate translated⟩

/-- A comparison with a date comes before a range behind it, under whatever it stands and whatever it names. -/
theorem validate_exact_nested :
    (or [nor [header " " (.date ⟨.on, .day, .epoch⟩)], uid [⟨2, 1⟩]]).validate = .error (.headerDate " ")
      ∧ (Failure.headerDate " ").code = .unsupportedQuery
      ∧ ∃ query, (nor [header "x" .present, uid [⟨1, 2⟩]]).translate [] ⟨"inbox"⟩ .words = .ok query := by
  have dated : Offends (header " " (.date ⟨.on, .day, .epoch⟩)) (.headerDate " ") := .date _ _
  obtain ⟨-, first, code, -⟩ :=
    validate_exact (or [nor [header " " (.date ⟨.on, .day, .epoch⟩)], uid [⟨2, 1⟩]])
  obtain ⟨-, -, -, translation⟩ := validate_exact (nor [header "x" .present, uid [⟨1, 2⟩]])
  refine ⟨(first _).mpr ⟨[or _, nor _], _, [uid _], rfl, ?_, dated⟩, ?_, ?_⟩
  · intro earlier listed other
    simp only [List.mem_cons, List.not_mem_nil, or_false] at listed
    rcases listed with rfl | rfl <;> nofun
  · exact (code _ _ dated).elim And.right fun undated => absurd ⟨_, _, rfl⟩ undated.1
  · exact (translation [] ⟨"inbox"⟩ .words).1 (by rfl)

end Criterion

end Letterbox
