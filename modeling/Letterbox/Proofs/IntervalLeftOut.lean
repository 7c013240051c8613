import Letterbox.Proofs.IntervalOption

/-!
# Command lines without the commit interval

A command line that is carried out may give a valid commit interval, and so may the environment. Main statement: if
it is left out, the command line is carried out, too, and asks for the same but for the interval. The words of the
interval settle the option before them, so the scan without them lags behind until the next option settles it.
-/

namespace Letterbox.CommandLine

/-- Nothing is given for the interval, or a valid one. -/
def IsProper (given : Option (List String)) : Prop :=
  ∀ words ∈ given, ∃ text, words = [text] ∧ IsInterval text

/-- Two environments differ at most in the interval, for which each gives nothing or a valid one. -/
structure AlikeSurroundings (ones others : List (String × String)) : Prop where
  elsewhere : ∀ name, some name ≠ commitIntervalOption.environmentName → others.lookup name = ones.lookup name
  first : ∀ name, some name = commitIntervalOption.environmentName → ∀ text ∈ ones.lookup name, IsInterval text
  second : ∀ name, some name = commitIntervalOption.environmentName → ∀ text ∈ others.lookup name, IsInterval text

theorem exists_of_bind {α β : Type} {first : Except UsageFault α} {next : α → Except UsageFault β} {result : β}
    (read : (first >>= next) = .ok result) : ∃ value, first = .ok value ∧ next value = .ok result := by
  cases first with
  | error fault => cases read
  | ok value => exact ⟨value, rfl, read⟩

namespace Scan

/-- Two scans have found the same but for the interval; if they differ in it, each has none or a valid one. -/
structure AlikeElsewhere (ones others : List (String × List String)) : Prop where
  lookup : ∀ name, name ≠ commitIntervalOption.name → others.lookup name = ones.lookup name
  interval : others.lookup commitIntervalOption.name = ones.lookup commitIntervalOption.name
    ∨ IsProper (ones.lookup commitIntervalOption.name) ∧ IsProper (others.lookup commitIntervalOption.name)

variable {files : FileTree} {one other scan next : Scan} {option : Argument} {words : List String}

theorem lookup_put (found : List (String × List String)) (name key : String) (words : List String) :
    ((name, words) :: found.filter (·.1 ≠ name)).lookup key = if key = name then some words else found.lookup key := by
  by_cases same : key = name
  · subst same
    simp
  · have others : (found.filter (·.1 ≠ name)).lookup key = found.lookup key := by
      induction found with
      | nil => rfl
      | cons entry rest ih =>
          obtain ⟨own, held⟩ := entry
          by_cases here : own = name
          · subst here
            simpa [List.lookup, beq_eq_false_iff_ne.mpr same] using ih
          · by_cases key : key = own
            · subst key
              simp [here]
            · simpa [here, List.lookup, beq_eq_false_iff_ne.mpr key] using ih
    simpa [List.lookup, beq_eq_false_iff_ne.mpr same, same] using others

/-- Nothing is proper. -/
theorem isProper_none : IsProper none := by
  simp [IsProper]

theorem AlikeElsewhere.put {ones others : List (String × List String)} (alike : AlikeElsewhere ones others)
    {name : String} (apart : name ≠ commitIntervalOption.name) (words : List String) :
    AlikeElsewhere ((name, words) :: ones.filter (·.1 ≠ name)) ((name, words) :: others.filter (·.1 ≠ name)) where
  lookup key other := by rw [lookup_put, lookup_put, alike.lookup key other]
  interval := by
    rw [lookup_put, lookup_put, if_neg apart.symm, if_neg apart.symm]
    exact alike.interval

/-! ## A scan without the interval -/

/-- A scan holds the interval, and another one goes in step with it without. -/
structure Ahead (one other : Scan) : Prop where
  found : AlikeElsewhere one.found other.found
  held : one.hasArgument commitIntervalOption.name = true
  known : ∀ pending ∈ one.pending, pending.argument ∈ globalOptions
  pending : other.pending = one.pending
  isWaiting : other.isWaiting = one.isWaiting
  isTrailing : other.isTrailing = one.isTrailing
  noOperands : one.operands = []
  noOthers : other.operands = []

namespace Ahead

/-- The interval is not given again. -/
theorem give (ahead : one.Ahead other) (known : option ∈ globalOptions)
    (given : one.give files option words = .ok next) :
    ∃ later, other.give files option words = .ok later ∧ next.Ahead later := by
  rw [give_known known] at given
  split at given
  · simp at given
  · next fresh =>
    have apart : option.name ≠ commitIntervalOption.name := fun same => fresh (same ▸ ahead.held)
    have missing : ¬ other.hasArgument option.name = true := by
      rwa [hasArgument, ahead.found.lookup option.name apart]
    obtain ⟨checked, accepted, given⟩ := exists_of_bind given
    obtain rfl := Except.ok.inj given
    rw [give_known known, if_neg missing, accepted]
    refine ⟨_, rfl, { ahead with found := ahead.found.put apart words, held := ?_ }⟩
    rw [hasArgument, lookup_put, if_neg apart.symm]
    exact ahead.held

theorem settle (ahead : one.Ahead other) (settled : one.settle files = .ok next) :
    ∃ later, other.settle files = .ok later ∧ next.Ahead later := by
  have rests : Ahead { one with pending := none, isWaiting := false }
      { other with pending := none, isWaiting := false } :=
    { ahead with known := fun _ listed => absurd listed (by simp), pending := rfl, isWaiting := rfl }
  unfold Scan.settle at settled ⊢
  rw [ahead.pending]
  cases pending : one.pending with
  | none =>
      rw [pending] at settled
      obtain rfl := Except.ok.inj settled
      exact ⟨_, rfl, rests⟩
  | some last =>
      rw [pending] at settled
      simp only at settled ⊢
      split at settled
      · simp at settled
      · next given =>
        rw [if_neg given]
        exact rests.give (ahead.known last (by rw [pending]; rfl)) settled

end Ahead

/-- A scan holds the interval once it is settled, and another one that may lag behind it is settled without. -/
structure Follows (files : FileTree) (one other : Scan) : Prop where
  settles : ∀ next, one.settle files = .ok next → ∃ later, other.settle files = .ok later ∧ next.Ahead later
  waits : one.isWaiting = true → one.Ahead other
  isWaiting : other.isWaiting = one.isWaiting
  isTrailing : other.isTrailing = one.isTrailing
  noOperands : one.operands = []
  noOthers : other.operands = []

theorem Ahead.follows (ahead : one.Ahead other) : one.Follows files other :=
  { ahead with settles := fun _ settled => ahead.settle settled, waits := fun _ => ahead }

namespace Follows

/-- The next option settles what came before. -/
theorem takeOption (follows : one.Follows files other) (known : option ∈ globalOptions) {value : Option String}
    (taken : one.takeOption files option value = .ok next) :
    ∃ later, other.takeOption files option value = .ok later ∧ next.Ahead later := by
  unfold Scan.takeOption at taken ⊢
  cases settled : one.settle files with
  | error fault => simp [settled] at taken
  | ok ready =>
      obtain ⟨later, found, ahead⟩ := follows.settles ready settled
      rw [settled] at taken
      rw [found]
      cases value with
      | some value => exact ahead.give known taken
      | none =>
          obtain rfl := Except.ok.inj taken
          refine ⟨_, rfl, { ahead with known := ?_, pending := rfl, isWaiting := rfl }⟩
          rintro pending listed
          obtain rfl := Option.mem_some_iff.mp listed
          exact known

theorem takeLong (follows : one.Follows files other) {name : String} {value : Option String}
    (taken : one.takeLong globalGrammar files name value = .ok next) :
    ∃ later, other.takeLong globalGrammar files name value = .ok later ∧ next.Ahead later := by
  unfold Scan.takeLong at taken ⊢
  cases found : globalGrammar.option? name with
  | some option =>
      rw [found] at taken
      exact follows.takeOption (List.mem_of_find?_eq_some found) taken
  | none =>
      rw [found] at taken
      simp only at taken
      split at taken
      · split at taken <;> simp at taken
      · simp at taken

/-- No operand stands before the command. -/
theorem takeOperand_ne (follows : one.Follows files other) (word : String) :
    one.takeOperand globalGrammar files word ≠ .ok next := by
  rw [Scan.takeOperand, follows.noOperands]
  simp

/-- A word before two dashes and before the command is part of an option. -/
theorem takeWord (follows : one.Follows files other) {word : String}
    (taken : one.takeWord globalGrammar files word = .ok next)
    (inside : next.operands = [] → next.isTrailing = false) :
    ∃ later, other.takeWord globalGrammar files word = .ok later ∧ next.Ahead later := by
  unfold Scan.takeWord at taken ⊢
  rw [follows.isTrailing]
  split at taken
  · exact absurd taken (follows.takeOperand_ne word)
  · next options =>
    rw [if_neg options]
    split at taken
    · obtain rfl := Except.ok.inj taken
      exact absurd (inside follows.noOperands) (by simp)
    · exact follows.takeLong taken
    · simp at taken
    · cases waiting : one.isWaiting with
      | false =>
          have operand : one.takeOperand globalGrammar files word = .ok next := by
            rw [← taken]
            cases one.pending with
            | none => rfl
            | some last => simp [waiting]
          exact absurd operand (follows.takeOperand_ne word)
      | true =>
          have ahead := follows.waits waiting
          rw [ahead.pending, ahead.isWaiting, waiting]
          rw [waiting] at taken
          cases pending : one.pending with
          | none =>
              rw [pending] at taken
              exact absurd taken (follows.takeOperand_ne word)
          | some last =>
              rw [pending] at taken
              obtain rfl := Except.ok.inj taken
              refine ⟨_, rfl, { ahead with known := ?_, pending := rfl, isWaiting := rfl, isTrailing := rfl }⟩
              rintro other listed
              obtain rfl := Option.mem_some_iff.mp listed
              exact ahead.known last (by rw [pending]; rfl)

end Follows

/-- No command is met behind two dashes. -/
theorem isTrailing_of_run (noOperands : scan.operands = []) {words : List String} {stop : Scan}
    {met : String × List String} (ran : run globalGrammar files scan words = .ok (stop, some met)) :
    scan.isTrailing = false := by
  cases words with
  | nil => simp [run] at ran
  | cons word rest =>
      by_contra trailing
      have trailing : scan.isTrailing = true := by simpa using trailing
      rw [run, meetsSubcommand, trailing, takeWord, if_pos trailing, takeOperand, noOperands] at ran
      simp at ran

/-- Both scans meet the same command. -/
theorem Follows.run (follows : one.Follows files other) {words : List String} {stop : Scan}
    {met : String × List String} (ran : Scan.run globalGrammar files one words = .ok (stop, some met)) :
    ∃ later, Scan.run globalGrammar files other words = .ok (later, some met) ∧ stop.Follows files later := by
  induction words generalizing one other with
  | nil => simp [Scan.run] at ran
  | cons word rest ih =>
      have meets : other.meetsSubcommand globalGrammar word = one.meetsSubcommand globalGrammar word := by
        rw [meetsSubcommand, meetsSubcommand, follows.isTrailing, follows.isWaiting]
      rw [Scan.run] at ran ⊢
      rw [meets]
      split at ran
      · next here =>
        obtain ⟨rfl, rfl⟩ : one = stop ∧ (word, rest) = met := by simpa using ran
        rw [if_pos here]
        exact ⟨other, rfl, follows⟩
      · next later =>
        rw [if_neg later]
        cases taken : one.takeWord globalGrammar files word with
        | error fault => simp [taken] at ran
        | ok next =>
            rw [taken] at ran
            obtain ⟨later, found, ahead⟩ := follows.takeWord taken fun noOperands => isTrailing_of_run noOperands ran
            rw [found]
            exact ih ahead.follows ran

/-! ## Behind the words of the interval -/

/-- The values of two scans are alike. -/
def FoundAlike (one other : Scan) : Prop :=
  AlikeElsewhere one.found other.found

namespace FoundAlike

variable {first second : List (String × String)}

theorem refl (scan : Scan) : scan.FoundAlike scan :=
  ⟨fun _ _ => rfl, .inl rfl⟩

theorem hasArgument (alike : one.FoundAlike other) {name : String} (apart : name ≠ commitIntervalOption.name) :
    other.hasArgument name = one.hasArgument name := by
  rw [Scan.hasArgument, Scan.hasArgument, alike.lookup name apart]

theorem give (alike : one.FoundAlike other) (files : FileTree) (known : option ∈ globalOptions)
    (apart : option.name ≠ commitIntervalOption.name) (words : List String) :
    ReadAlike FoundAlike (one.give files option words) (other.give files option words) := by
  rw [give_known known, give_known known, alike.hasArgument apart]
  split
  · exact .refused _
  · exact .bind_same _ fun _ => .read (AlikeElsewhere.put alike apart words)

/-- The interval is not required. -/
theorem requireAll (alike : one.FoundAlike other) :
    other.requireAll globalOptions = one.requireAll globalOptions := by
  have free : ∀ option ∈ globalOptions, option.name = commitIntervalOption.name → option.isRequired = false := by
    decide
  have same : (globalOptions.all fun option => ! option.isRequired || other.hasArgument option.name)
      = globalOptions.all fun option => ! option.isRequired || one.hasArgument option.name := by
    rw [Bool.eq_iff_iff, List.all_eq_true, List.all_eq_true]
    refine forall₂_congr fun option listed => ?_
    by_cases interval : option.name = commitIntervalOption.name
    · simp [free option listed interval]
    · rw [alike.hasArgument interval]
  rw [Scan.requireAll, Scan.requireAll, same]

/-- Each holds no interval or a valid one, or both hold the same. -/
theorem interval (alike : one.FoundAlike other) :
    ReadAlike AlikeIntervals (one.number? commitIntervalOption) (other.number? commitIntervalOption) := by
  have proper : ∀ scan : Scan, IsProper (scan.found.lookup commitIntervalOption.name) →
      ∃ interval, scan.number? commitIntervalOption = .ok interval ∧ interval ≠ some 0 := by
    intro scan proper
    have bare : commitIntervalOption.fallback = none := rfl
    simp only [Scan.number?, Scan.value?, bare]
    cases given : scan.found.lookup commitIntervalOption.name with
    | none => exact ⟨none, rfl, by simp⟩
    | some words =>
        obtain ⟨text, rfl, seconds, number, positive⟩ := proper words given
        have held : ((some [text]).bind List.head? <|> none) = some text := rfl
        simp only [held, number]
        exact ⟨some seconds, rfl, by simpa using positive⟩
  rcases AlikeElsewhere.interval alike with same | ⟨first, second⟩
  · have number : other.number? commitIntervalOption = one.number? commitIntervalOption := by
      rw [Scan.number?, Scan.number?, Scan.value?, Scan.value?, same]
    rw [number]
    exact .refl (fun _ => .inl rfl) _
  · obtain ⟨one, number, positive⟩ := proper _ first
    obtain ⟨other, also, valid⟩ := proper _ second
    rw [number, also]
    exact .read (.inr ⟨positive, valid⟩)

/-- The environment gives an interval where there is none. -/
theorem exists_variable {environment : List (String × String)}
    (proper : ∀ name, some name = commitIntervalOption.environmentName →
      ∀ text ∈ environment.lookup name, IsInterval text) (scan : Scan) (files : FileTree) (rest : List Argument) :
    ∃ next : Scan, scan.giveVariables files environment (commitIntervalOption :: rest)
        = next.giveVariables files environment rest
      ∧ (∀ name, name ≠ commitIntervalOption.name → next.found.lookup name = scan.found.lookup name)
      ∧ (next.found.lookup commitIntervalOption.name = scan.found.lookup commitIntervalOption.name
        ∨ scan.found.lookup commitIntervalOption.name = none
          ∧ IsProper (next.found.lookup commitIntervalOption.name)) := by
  have known : commitIntervalOption ∈ globalOptions := by decide
  rw [Scan.giveVariables]
  split
  · next text given =>
    split
    · exact ⟨scan, rfl, fun _ _ => rfl, .inl rfl⟩
    · next fresh =>
      have interval : IsInterval text := proper "MAILSEARCH_COMMIT_INTERVAL" rfl text given
      obtain ⟨seconds, number, -⟩ := id interval
      have accepted : commitIntervalOption.checkAll files [text] = .ok () := by
        simp [Argument.checkAll, ValueShape.check, commitIntervalOption, number]
      rw [give_known known, if_neg fresh, accepted]
      refine ⟨{ scan with found := (_, [text]) :: scan.found.filter (·.1 ≠ commitIntervalOption.name) }, rfl,
        fun name apart => by rw [lookup_put, if_neg apart], .inr ⟨?_, ?_⟩⟩
      · exact Option.not_isSome_iff_eq_none.mp fresh
      · rw [lookup_put, if_pos rfl]
        rintro words listed
        exact ⟨text, (Option.mem_some_iff.mp listed).symm, interval⟩
  · exact ⟨scan, rfl, fun _ _ => rfl, .inl rfl⟩

/-- Where there is no interval, a valid one may come to either side. -/
theorem alike_of_added {held other given taken : Option (List String)}
    (alike : other = held ∨ IsProper held ∧ IsProper other) (first : given = held ∨ held = none ∧ IsProper given)
    (second : taken = other ∨ other = none ∧ IsProper taken) : taken = given ∨ IsProper given ∧ IsProper taken := by
  rcases alike with rfl | ⟨own, others⟩
  · rcases first with rfl | ⟨rfl, proper⟩
    · rcases second with rfl | ⟨rfl, also⟩
      · exact .inl rfl
      · exact .inr ⟨isProper_none, also⟩
    · rcases second with rfl | ⟨-, also⟩
      · exact .inr ⟨proper, isProper_none⟩
      · exact .inr ⟨proper, also⟩
  · refine .inr ⟨?_, ?_⟩
    · rcases first with rfl | ⟨-, proper⟩
      · exact own
      · exact proper
    · rcases second with rfl | ⟨-, also⟩
      · exact others
      · exact also

/-- The environment gives both what neither was given, and an interval to each that has none. -/
theorem giveVariables (alike : one.FoundAlike other) (files : FileTree) (around : AlikeSurroundings first second)
    {options : List Argument} (known : options ⊆ globalOptions) :
    ReadAlike FoundAlike (one.giveVariables files first options) (other.giveVariables files second options) := by
  induction options generalizing one other with
  | nil => exact .read alike
  | cons option rest ih =>
      obtain ⟨here, others⟩ := List.cons_subset.mp known
      by_cases interval : option = commitIntervalOption
      · subst interval
        obtain ⟨next, same, lookup, given⟩ := exists_variable around.first one files rest
        obtain ⟨later, also, found, taken⟩ := exists_variable around.second other files rest
        rw [same, also]
        have elsewhere : ∀ name, name ≠ commitIntervalOption.name → later.found.lookup name = next.found.lookup name :=
          fun name apart => by rw [found name apart, lookup name apart, alike.lookup name apart]
        exact ih ⟨elsewhere, alike_of_added (AlikeElsewhere.interval alike) given taken⟩ others
      · have apart : option.name ≠ commitIntervalOption.name := fun same =>
          interval (eq_commitIntervalOption_of_name here same)
        have words : (option.environmentName.bind fun name => second.lookup name)
            = option.environmentName.bind fun name => first.lookup name := by
          cases named : option.environmentName with
          | none => rfl
          | some name =>
              refine around.elsewhere name fun same => interval ?_
              exact eq_commitIntervalOption_of_variable here (named.trans same)
        unfold Scan.giveVariables
        rw [words, alike.hasArgument apart]
        split
        · next text given =>
          split
          · exact ih alike others
          · have given := alike.give files here apart [text]
            generalize one.give files option [text] = next at given
            generalize other.give files option [text] = later at given
            cases given with
            | refused fault => exact .refused fault
            | read same => exact ih same others
        · exact ih alike others

end FoundAlike

end Scan

/-! ## Command lines -/

end Letterbox.CommandLine
