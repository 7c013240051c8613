import Letterbox.CommandLine.Settings

/-!
# Help

The texts that explain the program and its commands: what they are for, how they are called, and a line
or two for each argument.
-/

namespace Letterbox.CommandLine

/-- The name of the program and its version. -/
def versionText : String := "mailsearch 0.1.0\n"

/-- A name as it stands for a value. -/
def placeholder (name : String) : String :=
  "<" ++ String.ofList (name.toList.map fun letter => if letter = '-' then '_' else letter.toUpper) ++ ">"

/-- An option with its value. -/
def optionForm (option : Argument) : String :=
  "--" ++ option.name ++ " " ++ placeholder option.name

/-- An operand; dots follow one that may be repeated. -/
def operandForm (operand : Argument) : String :=
  let form :=
    if operand.isRequired then placeholder operand.name
    else "[" ++ String.ofList ((placeholder operand.name).toList.drop 1).dropLast ++ "]"
  form ++ if operand.isList then "..." else ""

/-- What stands behind the explanation of an argument: its variable, its default, its possible values. -/
def remarks (environment : List (String × String)) (argument : Argument) : List String :=
  (argument.environmentName.map fun name =>
      "[env: " ++ name ++ "=" ++ (environment.lookup name).getD "" ++ "]").toList
    ++ (argument.fallback.map fun value => "[default: " ++ value ++ "]").toList
    ++ if argument.shape = .truth then ["[possible values: true, false]"] else []

/-- The explanation of an argument with its remarks. -/
def explanation (environment : List (String × String)) (argument : Argument) : String :=
  " ".intercalate ((if argument.about = "" then [] else [argument.about]) ++ remarks environment argument)

/-- Rows of a form and an explanation each. -/
abbrev HelpRows := List (String × String)

/-- Rows with the explanations in a column of their own. -/
def columnLines (rows : HelpRows) : List String :=
  let width := (rows.map (·.1.length)).foldl max 0
  rows.map fun (form, about) =>
    "  " ++ form ++ String.ofList (List.replicate (width - form.length + 2) ' ') ++ about

/-- Rows with the explanations on lines of their own. -/
def stackedLines (rows : HelpRows) : List String :=
  rows.flatMap fun (form, about) => ["  " ++ form, "          " ++ about]

/-- The rows of options, with those that ask for information at the end. -/
def optionRows (environment : List (String × String)) (grammar : Grammar) : HelpRows :=
  grammar.options.map (fun option => ("    " ++ optionForm option, explanation environment option))
    ++ [("-h, --help", "Print help")]
    ++ if grammar.hasVersion then [("-V, --version", "Print version")] else []

/-- The words that a call must hold, and where options may stand. -/
def usageWords (grammar : Grammar) : List String :=
  (if grammar.options.all (·.isRequired) then [] else ["[OPTIONS]"])
    ++ (grammar.options.filter (·.isRequired)).map optionForm ++ grammar.operands.map operandForm

/-- What the subcommand that explains others is for. -/
def helpAbout : String := "Print this message or the help of the given subcommand(s)"

/-- A line on how to call the program with some words. -/
def usageLine (words : List String) : String :=
  "Usage: " ++ " ".intercalate ("mailsearch" :: words)

/-- The explanation of the program. -/
def programHelp (environment : List (String × String)) : List String :=
  ["Substring search index for IMAP mailboxes", "",
      usageLine (usageWords globalGrammar ++ ["<COMMAND>"]), "", "Commands:"]
    ++ columnLines (commands.map (fun words => (words.name, words.about)) ++ [(helpSubcommand, helpAbout)])
    ++ ["", "Options:"] ++ stackedLines (optionRows environment globalGrammar)

/-- The words of a call that come before those of a subcommand. -/
def callOf (subcommand : String) : List String :=
  (globalOptions.filter (·.isRequired)).map optionForm ++ [subcommand]

/-- The part of an explanation that lists operands. -/
def operandLines (rows : HelpRows) : List String :=
  if rows.isEmpty then [] else "Arguments:" :: columnLines rows

/-- The explanation of a command. -/
def commandHelp (words : CommandWords) : List String :=
  let operands := operandLines (words.operands.map fun operand => (operandForm operand, operand.about))
  [words.about, "", usageLine (callOf words.name ++ usageWords words.grammar), ""]
    ++ operands ++ (if operands.isEmpty then [] else [""])
    ++ ["Options:"] ++ columnLines (optionRows [] words.grammar)

/-- The explanation of the subcommand that explains others. -/
def helpHelp : List String :=
  [helpAbout, "", usageLine (callOf helpSubcommand ++ ["[COMMAND]..."]), ""]
    ++ operandLines [("[COMMAND]...", "Print help for the subcommand(s)")]

/-- The lines that explain a topic. -/
def helpLines (environment : List (String × String)) : HelpTopic → List String
  | .program => programHelp environment
  | .command name =>
    match commands.find? (·.name == name) with
    | some words => commandHelp words
    | none => programHelp environment
  | .help => helpHelp

/-- The information that a person asked for. -/
def requestedText (environment : List (String × String)) : UsageFault → String
  | .versionAsked => versionText
  | .helpAsked topic => String.join ((helpLines environment topic).map (· ++ "\n"))
  | _ => ""

end Letterbox.CommandLine
