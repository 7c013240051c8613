import Letterbox.CommandLine.Argument

/-!
# Scanned command lines

A command line is scanned word by word. An option takes the word behind it, or the rest of its own word
behind an equals sign; two dashes end the options. The values of an argument are looked at when the next
argument comes, so of several faults the first one that is noticed counts.
-/

namespace Letterbox.CommandLine

/-- What a command line may hold. -/
structure Grammar where
  /-- What is explained to a person who asks for help. -/
  topic : HelpTopic
  options : List Argument
  operands : List Argument
  subcommands : List String
  hasVersion : Bool

/-- The words that an argument was given, before they are looked at. -/
structure Pending where
  argument : Argument
  isOption : Bool
  words : List String

/-- How far a scan has come. -/
structure Scan where
  /-- The values of each argument that was given. -/
  found : List (String × List String)
  pending : Option Pending
  /-- The pending option still waits for its value. -/
  isWaiting : Bool
  /-- All further words are operands. -/
  isTrailing : Bool
  operands : List Argument

/-- The name of the subcommand that explains others. -/
def helpSubcommand : String := "help"

namespace Grammar

/-- Whether a word names a subcommand. -/
def isSubcommand (grammar : Grammar) (word : String) : Bool :=
  grammar.subcommands.contains word || (! grammar.subcommands.isEmpty && word == helpSubcommand)

/-- The option with a name. -/
def option? (grammar : Grammar) (name : String) : Option Argument :=
  grammar.options.find? (·.name == name)

/-- What is wrong with a word that nothing takes. -/
def strayFault (grammar : Grammar) (isTrailing : Bool) (word : String) : UsageFault :=
  if isTrailing ∧ grammar.isSubcommand word then .unknownArgument
  else if ! grammar.subcommands.isEmpty then .unknownSubcommand
  else .unknownArgument

end Grammar

namespace Scan

/-- The scan before the first word. -/
def start (grammar : Grammar) : Scan := ⟨[], none, false, false, grammar.operands⟩

/-- The values of an argument so far. -/
def valuesOf (scan : Scan) (name : String) : List String :=
  (scan.found.lookup name).getD []

/-- Whether an argument was given. -/
def hasArgument (scan : Scan) (name : String) : Bool :=
  (scan.found.lookup name).isSome

/-- The scan with values added to an argument, if they have its shape. -/
def give (scan : Scan) (files : FileTree) (argument : Argument) (words : List String) :
    Except UsageFault Scan :=
  if scan.hasArgument argument.name ∧ ! argument.isList then .error .repeatedArgument
  else
    let values := words.flatMap argument.valuesOf
    match argument.checkAll files values with
    | .error fault => .error fault
    | .ok () =>
      let all := scan.valuesOf argument.name ++ values
      .ok { scan with found := (argument.name, all) :: scan.found.filter (·.1 ≠ argument.name) }

/-- Looks at the words of the pending argument. -/
def settle (scan : Scan) (files : FileTree) : Except UsageFault Scan :=
  match scan.pending with
  | none => .ok { scan with isWaiting := false }
  | some pending =>
    if pending.words.isEmpty then .error .badValue
    else { scan with pending := none, isWaiting := false }.give files pending.argument pending.words

/-- The scan after an option whose value stands in the same word or is still to come. -/
def takeOption (scan : Scan) (files : FileTree) (option : Argument) (value : Option String) :
    Except UsageFault Scan :=
  match scan.settle files, value with
  | .error fault, _ => .error fault
  | .ok scan, some value => scan.give files option [value]
  | .ok scan, none => .ok { scan with pending := some ⟨option, true, []⟩, isWaiting := true }

/-- Settles what is pending before a request for information is met. -/
def request (scan : Scan) (files : FileTree) (asked : UsageFault) : UsageFault :=
  match scan.settle files with
  | .error fault => fault
  | .ok _ => asked

/-- The scan after a word that starts with two dashes. -/
def takeLong (scan : Scan) (grammar : Grammar) (files : FileTree) (name : String)
    (value : Option String) : Except UsageFault Scan :=
  match grammar.option? name with
  | some option => scan.takeOption files option value
  | none =>
    if name = "help" ∨ (name = "version" ∧ grammar.hasVersion) then
      if value.isSome then .error .unneededValue
      else .error (scan.request files (if name = "help" then .helpAsked grammar.topic else .versionAsked))
    else .error .unknownArgument

/-- The fault of a word that starts with one dash; its first letter may ask for information. -/
def shortFault (scan : Scan) (grammar : Grammar) (files : FileTree) (letter : Char) : UsageFault :=
  if letter = 'h' then scan.request files (.helpAsked grammar.topic)
  else if letter = 'V' ∧ grammar.hasVersion then scan.request files .versionAsked
  else .unknownArgument

/-- The scan after an operand. -/
def takeOperand (scan : Scan) (grammar : Grammar) (files : FileTree) (word : String) :
    Except UsageFault Scan :=
  match scan.operands with
  | [] => .error (grammar.strayFault scan.isTrailing word)
  | operand :: later =>
    match scan.pending with
    | some ⟨argument, false, words⟩ =>
      if operand.isList ∧ argument.name = operand.name then
        .ok { scan with pending := some ⟨argument, false, words ++ [word]⟩ }
      else takeFresh operand later
    | _ => takeFresh operand later
where
  /-- The scan after the first word of an operand. -/
  takeFresh (operand : Argument) (later : List Argument) : Except UsageFault Scan :=
    match scan.settle files with
    | .error fault => .error fault
    | .ok settled =>
      .ok
        { settled with
          pending := some ⟨operand, false, [word]⟩
          operands := if operand.isList then operand :: later else later }

/-- A word behind its two dashes, cut at the first equals sign. -/
def cutLong (letters : List Char) : String × Option String :=
  let name := String.ofList (letters.takeWhile (· ≠ '='))
  match letters.dropWhile (· ≠ '=') with
  | [] => (name, none)
  | _ :: value => (name, some (String.ofList value))

/-- The scan after a word that is no subcommand. -/
def takeWord (scan : Scan) (grammar : Grammar) (files : FileTree) (word : String) :
    Except UsageFault Scan :=
  if scan.isTrailing then scan.takeOperand grammar files word
  else
    match word.toList with
    | ['-', '-'] => .ok { scan with isTrailing := true }
    | '-' :: '-' :: letters =>
      let (name, value) := cutLong letters
      scan.takeLong grammar files name value
    | '-' :: letter :: _ => .error (scan.shortFault grammar files letter)
    | _ =>
      match scan.pending with
      | some pending =>
        if scan.isWaiting then
          .ok { scan with pending := some { pending with words := [word] }, isWaiting := false }
        else scan.takeOperand grammar files word
      | none => scan.takeOperand grammar files word

/-- Whether a word is read as the name of a subcommand. -/
def meetsSubcommand (scan : Scan) (grammar : Grammar) (word : String) : Bool :=
  ! scan.isTrailing && ! scan.isWaiting && grammar.isSubcommand word

/-- Scans words up to a subcommand, which is given back with the words behind it. -/
def run (grammar : Grammar) (files : FileTree) (scan : Scan) :
    List String → Except UsageFault (Scan × Option (String × List String))
  | [] => .ok (scan, none)
  | word :: rest =>
    if scan.meetsSubcommand grammar word then .ok (scan, some (word, rest))
    else
      match scan.takeWord grammar files word with
      | .error fault => .error fault
      | .ok next => run grammar files next rest

/-- The scan with the variables of the environment in the place of options that were not given. -/
def giveVariables (scan : Scan) (files : FileTree) (environment : List (String × String)) :
    List Argument → Except UsageFault Scan
  | [] => .ok scan
  | option :: rest =>
    match option.environmentName.bind fun name => environment.lookup name with
    | some value =>
      if scan.hasArgument option.name then scan.giveVariables files environment rest
      else
        match scan.give files option [value] with
        | .error fault => .error fault
        | .ok next => next.giveVariables files environment rest
    | none => scan.giveVariables files environment rest

/-- Every required argument must have been given. -/
def requireAll (scan : Scan) (arguments : List Argument) : Except UsageFault Unit :=
  if arguments.all fun argument => ! argument.isRequired || scan.hasArgument argument.name then .ok ()
  else .error .missingArgument

/-- The value of an argument: what was given, or else its default. -/
def value? (scan : Scan) (argument : Argument) : Option String :=
  ((scan.found.lookup argument.name).bind List.head?) <|> argument.fallback

end Scan

end Letterbox.CommandLine
