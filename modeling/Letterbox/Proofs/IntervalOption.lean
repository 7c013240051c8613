import Letterbox.CommandLine.Settings
import Mathlib

/-!
# The commit interval of a command line

A command line gives the commit interval as an option, or the environment gives it. Main statement: with another
valid interval in its place a command line asks for the same but for the interval, or it is refused for the same
reason. Two scans of such command lines go on in step, and what they hold differs in the text of the interval only.
-/

namespace Letterbox.CommandLine

/-- A text that gives a valid commit interval. -/
def IsInterval (text : String) : Prop :=
  ∃ seconds, number? text = some seconds ∧ seconds ≠ 0

/-- The words of one argument: the same, or each a valid commit interval. -/
inductive AlikeWords (name : String) : List String → List String → Prop
  | same (words : List String) : AlikeWords name words words
  | intervals {one other : String} :
      name = commitIntervalOption.name → IsInterval one → IsInterval other → AlikeWords name [one] [other]

/-- Two environments that differ at most in valid commit intervals. -/
def AlikeEnvironments (ones others : List (String × String)) : Prop :=
  ∀ name, ones.lookup name = others.lookup name
    ∨ some name = commitIntervalOption.environmentName ∧ ∃ one other, ones.lookup name = some one
      ∧ others.lookup name = some other ∧ IsInterval one ∧ IsInterval other

/-- Two intervals: the same, or each a valid one. -/
def AlikeIntervals (one other : Option Nat) : Prop :=
  other = one ∨ one ≠ some 0 ∧ other ≠ some 0

/-- Two requests that differ at most in valid commit intervals. -/
def Settings.Alike (one other : Settings) : Prop :=
  ∃ interval, other = { one with commitInterval := interval } ∧ AlikeIntervals one.commitInterval interval

/-- Both are refused for the same reason, or what is read of both is alike. -/
inductive ReadAlike {α : Type} (alike : α → α → Prop) : Except UsageFault α → Except UsageFault α → Prop
  | refused (fault : UsageFault) : ReadAlike alike (.error fault) (.error fault)
  | read {one other : α} : alike one other → ReadAlike alike (.ok one) (.ok other)

namespace ReadAlike

variable {α β : Type} {alike : α → α → Prop} {beside : β → β → Prop}

theorem refl (same : ∀ a, alike a a) (result : Except UsageFault α) : ReadAlike alike result result := by
  cases result with
  | error fault => exact .refused fault
  | ok a => exact .read (same a)

theorem bind {one other : Except UsageFault α} {next later : α → Except UsageFault β}
    (first : ReadAlike alike one other) (then_alike : ∀ a b, alike a b → ReadAlike beside (next a) (later b)) :
    ReadAlike beside (one >>= next) (other >>= later) := by
  cases first with
  | refused fault => exact .refused fault
  | read same => exact then_alike _ _ same

theorem bind_same (first : Except UsageFault α) {next later : α → Except UsageFault β}
    (then_alike : ∀ a, ReadAlike beside (next a) (later a)) :
    ReadAlike beside (first >>= next) (first >>= later) := by
  cases first with
  | error fault => exact .refused fault
  | ok a => exact then_alike a

end ReadAlike

/-! ## Scans in step -/

theorem eq_commitIntervalOption_of_name {option : Argument} (known : option ∈ globalOptions)
    (name : option.name = commitIntervalOption.name) : option = commitIntervalOption := by
  revert option
  decide

/-- An option before the command is given once, and its text is its value. -/
theorem single_of_known {option : Argument} (known : option ∈ globalOptions) :
    option.isList = false ∧ option.isSplit = false := by
  revert option
  decide

theorem eq_commitIntervalOption_of_variable {option : Argument} (known : option ∈ globalOptions)
    (name : option.environmentName = commitIntervalOption.environmentName) : option = commitIntervalOption := by
  revert option
  decide

/-- The variables for an option give words that are alike, or neither is there. -/
theorem AlikeEnvironments.variable {ones others : List (String × String)} (around : AlikeEnvironments ones others)
    {option : Argument} (known : option ∈ globalOptions) :
    (option.environmentName.bind fun name => ones.lookup name) = none
        ∧ (option.environmentName.bind fun name => others.lookup name) = none
      ∨ ∃ one other, (option.environmentName.bind fun name => ones.lookup name) = some one
        ∧ (option.environmentName.bind fun name => others.lookup name) = some other
        ∧ AlikeWords option.name [one] [other] := by
  cases named : option.environmentName with
  | none => exact .inl ⟨rfl, rfl⟩
  | some name =>
      rcases around name with same | ⟨interval, one, other, found, also, first, second⟩
      · cases found : ones.lookup name with
        | none => exact .inl ⟨found, same.symm.trans found⟩
        | some value => exact .inr ⟨value, value, found, same.symm.trans found, .same _⟩
      · obtain rfl := eq_commitIntervalOption_of_variable known (named.trans interval)
        exact .inr ⟨one, other, found, also, .intervals rfl first second⟩

/-- What two scans have met last: the same option, with words that are alike. -/
inductive AlikePending : Option Pending → Option Pending → Prop
  | none : AlikePending none none
  | some {option : Argument} {ones others : List String} (isOption : Bool) :
      option ∈ globalOptions → AlikeWords option.name ones others →
        AlikePending (some ⟨option, isOption, ones⟩) (some ⟨option, isOption, others⟩)

namespace Scan

/-- An option before the command is given once, and its words are held as they are. -/
theorem give_known {option : Argument} (known : option ∈ globalOptions) {scan : Scan} {files : FileTree}
    {words : List String} :
    scan.give files option words
      = if scan.hasArgument option.name then .error .repeatedArgument
        else option.checkAll files words >>= fun _ =>
          .ok { scan with found := (option.name, words) :: scan.found.filter (·.1 ≠ option.name) } := by
  obtain ⟨single, whole⟩ := single_of_known known
  have values : words.flatMap option.valuesOf = words := by
    have one : option.valuesOf = fun word => [word] := by
      funext word
      simp [Argument.valuesOf, whole]
    simp [one]
  unfold give
  rw [values]
  by_cases given : scan.hasArgument option.name = true
  · simp [given, single]
  · have fresh : scan.valuesOf option.name = [] := by
      rw [hasArgument] at given
      rw [valuesOf, Option.not_isSome_iff_eq_none.mp given]
      rfl
    simp only [given, fresh, single, List.nil_append]
    cases option.checkAll files words <;> rfl

/-- The values that two scans have found for the same argument are alike. -/
def AlikeFound (one other : String × List String) : Prop :=
  one.1 = other.1 ∧ AlikeWords one.1 one.2 other.2

/-- Two scans of the words before the command differ at most in valid commit intervals. -/
structure Alike (one other : Scan) : Prop where
  found : List.Forall₂ AlikeFound one.found other.found
  pending : AlikePending one.pending other.pending
  isWaiting : other.isWaiting = one.isWaiting
  /-- An option that waits for its value has none yet. -/
  waits : one.isWaiting = true → ∃ option isOption, one.pending = some ⟨option, isOption, []⟩
  isTrailing : other.isTrailing = one.isTrailing
  noOperands : one.operands = []
  noOthers : other.operands = []

/-- Two scans stop at the same command, or at none. -/
def AlikeStops (one other : Scan × Option (String × List String)) : Prop :=
  one.1.Alike other.1 ∧ one.2 = other.2

theorem alike_start : (start globalGrammar).Alike (start globalGrammar) :=
  ⟨.nil, .none, rfl, nofun, rfl, rfl, rfl⟩

namespace Alike

variable {one other : Scan}

/-- An argument was given to both scans, with words that are alike, or to neither. -/
theorem lookup (alike : one.Alike other) (name : String) :
    (one.found.lookup name = none ∧ other.found.lookup name = none)
      ∨ ∃ ones others, one.found.lookup name = some ones ∧ other.found.lookup name = some others
        ∧ AlikeWords name ones others := by
  have found := alike.found
  generalize one.found = ones at found
  generalize other.found = others at found
  induction found with
  | nil => exact .inl ⟨rfl, rfl⟩
  | @cons first second ones others same rest ih =>
      obtain ⟨key, words⟩ := first
      obtain ⟨other, values⟩ := second
      obtain ⟨rfl, alike⟩ := same
      by_cases named : name = key
      · subst named
        exact .inr ⟨words, values, by simp, by simp, alike⟩
      · simpa [List.lookup, beq_eq_false_iff_ne.mpr named] using ih

theorem hasArgument (alike : one.Alike other) (name : String) : other.hasArgument name = one.hasArgument name := by
  rw [Scan.hasArgument, Scan.hasArgument]
  rcases alike.lookup name with ⟨none, others⟩ | ⟨ones, words, found, also, -⟩
  · rw [none, others]
  · rw [found, also]
    rfl

/-- Of the words of an option neither has more, and both have its shape or neither. -/
theorem checkAll (files : FileTree) {option : Argument} (known : option ∈ globalOptions) {ones others : List String}
    (words : AlikeWords option.name ones others) : option.checkAll files others = option.checkAll files ones := by
  cases words with
  | same words => rfl
  | @intervals one other name first second =>
      obtain rfl := eq_commitIntervalOption_of_name known name
      obtain ⟨seconds, number, -⟩ := first
      obtain ⟨others, also, -⟩ := second
      simp [Argument.checkAll, ValueShape.check, commitIntervalOption, number, also]

theorem give (alike : one.Alike other) (files : FileTree) {option : Argument} (known : option ∈ globalOptions)
    {ones others : List String} (words : AlikeWords option.name ones others) :
    ReadAlike Scan.Alike (one.give files option ones) (other.give files option others) := by
  rw [give_known known, give_known known, alike.hasArgument, checkAll files known words]
  split
  · exact .refused _
  · cases option.checkAll files ones with
    | error fault => exact .refused fault
    | ok accepted =>
        have kept : List.Forall₂ AlikeFound (one.found.filter (·.1 ≠ option.name))
            (other.found.filter (·.1 ≠ option.name)) :=
          List.rel_filter (fun first second same => by simp only [same.1]) alike.found
        exact .read ⟨.cons ⟨rfl, words⟩ kept, alike.pending, alike.isWaiting, alike.waits, alike.isTrailing,
          alike.noOperands, alike.noOthers⟩

theorem settle (alike : one.Alike other) (files : FileTree) :
    ReadAlike Scan.Alike (one.settle files) (other.settle files) := by
  obtain ⟨ones, first, waiting, trailing, operands⟩ := one
  obtain ⟨others, second, later, behind, rest⟩ := other
  obtain ⟨found, pending, -, -, isTrailing, noOperands, noOthers⟩ := alike
  unfold Scan.settle
  cases pending with
  | none => exact .read ⟨found, .none, rfl, nofun, isTrailing, noOperands, noOthers⟩
  | @some option words values isOption known same =>
      have length : values.isEmpty = words.isEmpty := by
        cases same <;> rfl
      simp only [length]
      split
      · exact .refused _
      · have settled : Scan.Alike ⟨ones, none, false, trailing, operands⟩ ⟨others, none, false, behind, rest⟩ :=
          ⟨found, .none, rfl, nofun, isTrailing, noOperands, noOthers⟩
        exact settled.give files known same

theorem takeOption (alike : one.Alike other) (files : FileTree) {option : Argument} (known : option ∈ globalOptions)
    (value : Option String) :
    ReadAlike Scan.Alike (one.takeOption files option value) (other.takeOption files option value) := by
  have settled := alike.settle files
  unfold Scan.takeOption
  generalize one.settle files = first at settled
  generalize other.settle files = second at settled
  cases settled with
  | refused fault => exact .refused fault
  | read same =>
      cases value with
      | none =>
          exact .read ⟨same.found, .some true known (.same []), rfl, fun _ => ⟨option, true, rfl⟩, same.isTrailing,
            same.noOperands, same.noOthers⟩
      | some value => exact same.give files known (.same [value])

theorem request (alike : one.Alike other) (files : FileTree) (asked : UsageFault) :
    other.request files asked = one.request files asked := by
  have settled := alike.settle files
  unfold Scan.request
  generalize one.settle files = first at settled
  generalize other.settle files = second at settled
  cases settled <;> rfl

theorem takeLong (alike : one.Alike other) (files : FileTree) (name : String) (value : Option String) :
    ReadAlike Scan.Alike (one.takeLong globalGrammar files name value)
      (other.takeLong globalGrammar files name value) := by
  unfold Scan.takeLong
  cases found : globalGrammar.option? name with
  | some option => exact alike.takeOption files (List.mem_of_find?_eq_some found) value
  | none =>
      simp only [alike.request]
      split
      · split
        · exact .refused _
        · exact .refused _
      · exact .refused _

theorem shortFault (alike : one.Alike other) (files : FileTree) (letter : Char) :
    other.shortFault globalGrammar files letter = one.shortFault globalGrammar files letter := by
  simp only [Scan.shortFault, alike.request]

/-- No operand stands before the command. -/
theorem takeOperand (alike : one.Alike other) (files : FileTree) (word : String) :
    ReadAlike Scan.Alike (one.takeOperand globalGrammar files word) (other.takeOperand globalGrammar files word) := by
  rw [Scan.takeOperand, Scan.takeOperand, alike.noOperands, alike.noOthers, alike.isTrailing]
  exact .refused _

theorem takeWord (alike : one.Alike other) (files : FileTree) (word : String) :
    ReadAlike Scan.Alike (one.takeWord globalGrammar files word) (other.takeWord globalGrammar files word) := by
  have operand := alike.takeOperand files word
  unfold Scan.takeWord
  rw [alike.isTrailing]
  split
  · exact operand
  · split
    · exact .read ⟨alike.found, alike.pending, alike.isWaiting, alike.waits, rfl, alike.noOperands, alike.noOthers⟩
    · exact alike.takeLong files _ _
    · rw [alike.shortFault]
      exact .refused _
    · obtain ⟨ones, first, waiting, trailing, operands⟩ := one
      obtain ⟨others, second, later, behind, rest⟩ := other
      obtain ⟨found, pending, rfl, -, isTrailing, noOperands, noOthers⟩ := alike
      cases pending with
      | none => exact operand
      | some isOption known same =>
          simp only
          split
          · exact .read ⟨found, .some isOption known (.same [word]), rfl, nofun, rfl, noOperands, noOthers⟩
          · exact operand

/-- Two scans meet the same command, or none. -/
theorem run (alike : one.Alike other) (files : FileTree) (words : List String) :
    ReadAlike AlikeStops
      (Scan.run globalGrammar files one words) (Scan.run globalGrammar files other words) := by
  induction words generalizing one other with
  | nil => exact .read ⟨alike, rfl⟩
  | cons word rest ih =>
      have meets : other.meetsSubcommand globalGrammar word = one.meetsSubcommand globalGrammar word := by
        rw [meetsSubcommand, meetsSubcommand, alike.isTrailing, alike.isWaiting]
      have taken := alike.takeWord files word
      rw [Scan.run, Scan.run, meets]
      split
      · exact .read ⟨alike, rfl⟩
      · generalize one.takeWord globalGrammar files word = first at taken
        generalize other.takeWord globalGrammar files word = second at taken
        cases taken with
        | refused fault => exact .refused fault
        | read same => exact ih same

/-- The environment gives both what neither was given. -/
theorem giveVariables (alike : one.Alike other) (files : FileTree) {first second : List (String × String)}
    (around : AlikeEnvironments first second) {options : List Argument} (known : options ⊆ globalOptions) :
    ReadAlike Scan.Alike (one.giveVariables files first options) (other.giveVariables files second options) := by
  induction options generalizing one other with
  | nil => exact .read alike
  | cons option rest ih =>
      obtain ⟨here, others⟩ := List.cons_subset.mp known
      unfold Scan.giveVariables
      rcases around.variable here with ⟨none, absent⟩ | ⟨word, value, found, also, words⟩
      · simp only [none, absent]
        exact ih alike others
      · simp only [found, also, alike.hasArgument]
        split
        · exact ih alike others
        · have given := alike.give files here words
          generalize one.give files option [word] = next at given
          generalize other.give files option [value] = later at given
          cases given with
          | refused fault => exact .refused fault
          | read same => exact ih same others

theorem requireAll (alike : one.Alike other) (arguments : List Argument) :
    other.requireAll arguments = one.requireAll arguments := by
  simp only [Scan.requireAll, alike.hasArgument]

/-- Both hold the same interval, or each a valid one. -/
theorem interval (alike : one.Alike other) :
    ReadAlike AlikeIntervals (one.number? commitIntervalOption) (other.number? commitIntervalOption) := by
  have bare : commitIntervalOption.fallback = none := rfl
  simp only [Scan.number?, Scan.value?, bare]
  rcases alike.lookup commitIntervalOption.name with ⟨none, others⟩ | ⟨ones, words, found, also, same⟩
  · rw [none, others]
    exact .read (.inl rfl)
  · rw [found, also]
    cases same with
    | same words => exact .refl (fun _ => .inl rfl) _
    | intervals name first second =>
        obtain ⟨seconds, number, proper⟩ := first
        obtain ⟨later, other, valid⟩ := second
        have held : ∀ word : String, ((some [word]).bind List.head? <|> none) = some word := fun _ => rfl
        simp only [held, number, other]
        exact .read (.inr ⟨by simpa using proper, by simpa using valid⟩)

end Alike

end Scan

/-! ## Words of the commit interval -/

/-- An option with its value: two words, or one with an equals sign. -/
def optionWords (name : String) (joined : Bool) (value : String) : List String :=
  if joined then ["--" ++ name ++ "=" ++ value] else ["--" ++ name, value]

theorem optionWords_dash (name : String) (joined : Bool) (value : String) :
    ∃ word rest, optionWords name joined value = word :: rest ∧ word.toList.head? = some '-' := by
  cases joined with
  | false => exact ⟨"--" ++ name, [value], rfl, by simp⟩
  | true => exact ⟨"--" ++ name ++ "=" ++ value, [], rfl, by simp⟩

/-- An interval starts with a digit, or with a plus sign. -/
theorem IsInterval.head?_ne {text : String} (interval : IsInterval text) : text.toList.head? ≠ some '-' := by
  obtain ⟨seconds, number, -⟩ := interval
  intro dash
  obtain ⟨letters, found⟩ := List.head?_eq_some_iff.mp dash
  simp [number?, found, Json.digits?] at number

namespace Scan

variable {files : FileTree} {scan next : Scan}

/-- Values that are given change nothing but what was found. -/
theorem exists_found_of_give {option : Argument} {words : List String}
    (given : scan.give files option words = .ok next) : ∃ found, next = { scan with found } := by
  unfold give at given
  split at given
  · simp at given
  · simp only at given
    split at given
    · simp at given
    · exact ⟨_, (Except.ok.inj given).symm⟩

theorem isTrailing_settle (settled : scan.settle files = .ok next) : next.isTrailing = scan.isTrailing := by
  unfold settle at settled
  split at settled
  · obtain rfl := Except.ok.inj settled
    rfl
  · split at settled
    · simp at settled
    · obtain ⟨found, rfl⟩ := exists_found_of_give settled
      rfl

/-- A word that starts with a dash names no command. -/
theorem isSubcommand_of_dash {word : String} (dash : word.toList.head? = some '-') :
    globalGrammar.isSubcommand word = false := by
  have names : ∀ name ∈ helpSubcommand :: globalGrammar.subcommands, name.toList.head? ≠ some '-' := by decide
  have other : ∀ name ∈ helpSubcommand :: globalGrammar.subcommands, word ≠ name := fun name listed same =>
    names name listed (same ▸ dash)
  have help : word ≠ helpSubcommand := other _ List.mem_cons_self
  have unlisted : word ∉ globalGrammar.subcommands := fun listed => other word (List.mem_cons_of_mem _ listed) rfl
  simp [Grammar.isSubcommand, help, unlisted]

/-- Behind two dashes nothing is taken before the command. -/
theorem run_trailing (trailing : scan.isTrailing = true) (noOperands : scan.operands = []) (files : FileTree)
    {word : String} (dash : word.toList.head? = some '-') (rest : List String) :
    run globalGrammar files scan (word :: rest) = .error .unknownSubcommand := by
  have stray : globalGrammar.strayFault true word = .unknownSubcommand := by
    have some : globalGrammar.subcommands ≠ [] := by decide
    simp [Grammar.strayFault, isSubcommand_of_dash dash, some]
  rw [run, takeWord, takeOperand, meetsSubcommand, noOperands, trailing, if_pos rfl]
  simp only [Bool.not_true, Bool.false_and, Bool.false_eq_true, if_false, stray]

theorem run_append (grammar : Grammar) (files : FileTree) (scan : Scan) (front back : List String) :
    run grammar files scan (front ++ back)
      = match run grammar files scan front with
        | .error fault => .error fault
        | .ok (next, none) => run grammar files next back
        | .ok (next, some (name, rest)) => .ok (next, some (name, rest ++ back)) := by
  induction front generalizing scan with
  | nil => rfl
  | cons word rest ih =>
      rw [List.cons_append, run, run]
      split
      · rfl
      · cases scan.takeWord grammar files word with
        | error fault => rfl
        | ok next => exact ih next

theorem cutLong_joined {name : List Char} (plain : '=' ∉ name) (value : List Char) :
    cutLong (name ++ '=' :: value) = (String.ofList name, some (String.ofList value)) := by
  have all : ∀ letter ∈ name, (decide (letter ≠ '=')) = true := by
    intro letter listed
    have other : letter ≠ '=' := fun same => plain (same ▸ listed)
    simpa using other
  rw [cutLong, List.takeWhile_append_of_pos all, List.dropWhile_append_of_pos all]
  simp

/-- Before two dashes, an option is taken with its value. -/
theorem takeWord_long (options : scan.isTrailing = false) (grammar : Grammar) {word : String} {letters : List Char}
    (dashes : word.toList = '-' :: '-' :: letters) (named : letters ≠ []) :
    scan.takeWord grammar files word
      = scan.takeLong grammar files (cutLong letters).1 (cutLong letters).2 := by
  rw [takeWord, options, dashes]
  cases letters with
  | nil => contradiction
  | cons letter rest => rfl

/-- The word behind an option is its value. -/
theorem takeWord_value (found : List (String × List String)) (option : Argument) (operands : List Argument)
    (grammar : Grammar) (files : FileTree) {word : String} (plain : word.toList.head? ≠ some '-') :
    takeWord ⟨found, some ⟨option, true, []⟩, true, false, operands⟩ grammar files word
      = .ok ⟨found, some ⟨option, true, [word]⟩, false, false, operands⟩ := by
  rw [takeWord, if_neg Bool.false_ne_true]
  split
  · next letters => simp [letters] at plain
  · next letters => simp [letters] at plain
  · next letters => simp [letters] at plain
  · simp

theorem option?_interval : globalGrammar.option? commitIntervalOption.name = some commitIntervalOption := by
  decide

/-- The words of the interval settle what came before, and the interval comes last. -/
theorem run_interval (options : scan.isTrailing = false) (files : FileTree) {text : String}
    (interval : IsInterval text) (back : List String) :
    run globalGrammar files scan (optionWords commitIntervalOption.name false text ++ back)
      = (scan.settle files >>= fun settled => run globalGrammar files
          { settled with pending := some ⟨commitIntervalOption, true, [text]⟩, isWaiting := false } back) := by
  have letters : ("--" ++ commitIntervalOption.name).toList = '-' :: '-' :: commitIntervalOption.name.toList := by
    decide
  have cut : cutLong commitIntervalOption.name.toList = (commitIntervalOption.name, none) := by decide
  have named : commitIntervalOption.name.toList ≠ [] := by decide
  rw [optionWords, if_neg Bool.false_ne_true, List.cons_append, run,
    meetsSubcommand, isSubcommand_of_dash (by rw [letters]; rfl), Bool.and_false,
    takeWord_long options _ letters named, cut, takeLong, option?_interval]
  simp only [takeOption, Bool.false_eq_true, if_false]
  cases settled : scan.settle files with
  | error fault => rfl
  | ok next =>
      have inside : next.isTrailing = false := (isTrailing_settle settled).trans options
      have taken := takeWord_value next.found commitIntervalOption next.operands globalGrammar files interval.head?_ne
      simp only [List.singleton_append, run, meetsSubcommand, inside, Bool.not_true, Bool.and_false, Bool.false_and,
        Bool.false_eq_true, if_false, taken]
      change _ = run globalGrammar files ⟨next.found, _, false, next.isTrailing, next.operands⟩ back
      rw [inside]

/-- In one word with its option, the interval is looked at once. -/
theorem run_joinedInterval (options : scan.isTrailing = false) (files : FileTree) (text : String) (back : List String) :
    run globalGrammar files scan (optionWords commitIntervalOption.name true text ++ back)
      = (scan.settle files >>= fun settled => settled.give files commitIntervalOption [text] >>= fun next =>
          run globalGrammar files next back) := by
  have letters : ("--" ++ commitIntervalOption.name ++ "=" ++ text).toList
      = '-' :: '-' :: (commitIntervalOption.name.toList ++ '=' :: text.toList) := by
    simp
  have cut := cutLong_joined (by decide : '=' ∉ commitIntervalOption.name.toList) text.toList
  rw [optionWords, if_pos rfl, List.singleton_append, run,
    meetsSubcommand, isSubcommand_of_dash (by rw [letters]; rfl), Bool.and_false,
    takeWord_long options _ letters (by simp), cut, takeLong, String.ofList_toList, option?_interval]
  simp only [takeOption, Bool.false_eq_true, if_false]
  cases scan.settle files with
  | error fault => rfl
  | ok next =>
      simp only [String.ofList_toList]
      cases given : next.give files commitIntervalOption [text] with
      | error fault =>
          change _ = (next.give files commitIntervalOption [text] >>= _)
          rw [given]
          rfl
      | ok last =>
          change _ = (next.give files commitIntervalOption [text] >>= _)
          rw [given]
          rfl

/-- Before the command an interval is taken in the same way whatever its text is. -/
theorem alike_interval (alike : scan.Alike scan) (files : FileTree) {one other : String} (first : IsInterval one)
    (second : IsInterval other) (joined : Bool) (back : List String) :
    ReadAlike AlikeStops (run globalGrammar files scan (optionWords commitIntervalOption.name joined one ++ back))
      (run globalGrammar files scan (optionWords commitIntervalOption.name joined other ++ back)) := by
  have known : commitIntervalOption ∈ globalOptions := by decide
  have words : AlikeWords commitIntervalOption.name [one] [other] := .intervals rfl first second
  have settled := alike.settle files
  cases options : scan.isTrailing with
  | true =>
      obtain ⟨word, rest, ones, dash⟩ := optionWords_dash commitIntervalOption.name joined one
      obtain ⟨later, others, also, behind⟩ := optionWords_dash commitIntervalOption.name joined other
      rw [ones, also, List.cons_append, List.cons_append, run_trailing options alike.noOperands files dash,
        run_trailing options alike.noOperands files behind]
      exact .refused _
  | false =>
      cases joined with
      | false =>
          rw [run_interval options files first, run_interval options files second]
          refine settled.bind fun next later same => ?_
          have waits : Alike
              ⟨next.found, some ⟨commitIntervalOption, true, [one]⟩, false, next.isTrailing, next.operands⟩
              ⟨later.found, some ⟨commitIntervalOption, true, [other]⟩, false, later.isTrailing, later.operands⟩ :=
            ⟨same.found, .some true known words, rfl, nofun, same.isTrailing, same.noOperands, same.noOthers⟩
          exact waits.run files back
      | true =>
          rw [run_joinedInterval options files, run_joinedInterval options files]
          refine settled.bind fun next later same => (same.give files known words).bind fun last final same => ?_
          exact same.run files back

end Scan

/-! ## Command lines -/

/-- Command lines that differ at most in the valid interval before the command. -/
inductive AlikeCommandLines (files : FileTree) : List String → List String → Prop
  | same (words : List String) : AlikeCommandLines files words words
  | intervals {front : List String} {one other : String} (joined : Bool) (back : List String) :
      (∀ scan met, Scan.run globalGrammar files (.start globalGrammar) front ≠ .ok (scan, some met)) →
        IsInterval one → IsInterval other →
          AlikeCommandLines files (front ++ optionWords commitIntervalOption.name joined one ++ back)
            (front ++ optionWords commitIntervalOption.name joined other ++ back)

theorem AlikeCommandLines.run {files : FileTree} {ones others : List String}
    (alike : AlikeCommandLines files ones others) :
    ReadAlike Scan.AlikeStops (Scan.run globalGrammar files (.start globalGrammar) ones)
      (Scan.run globalGrammar files (.start globalGrammar) others) := by
  cases alike with
  | same => exact Scan.alike_start.run files ones
  | @intervals front one other joined back before first second =>
      have start := Scan.alike_start.run files front
      rw [List.append_assoc, List.append_assoc, Scan.run_append, Scan.run_append]
      cases met : Scan.run globalGrammar files (.start globalGrammar) front with
      | error fault => exact .refused fault
      | ok stop =>
          obtain ⟨scan, command⟩ := stop
          rw [met] at start
          cases command with
          | some command => exact absurd met (before scan command)
          | none =>
              obtain ⟨same, -⟩ : Scan.AlikeStops (scan, none) (scan, none) := by
                cases start
                assumption
              exact Scan.alike_interval same files first second joined back

end Letterbox.CommandLine
