import Letterbox.CommandLine.Scan
import Letterbox.Config
import Letterbox.UidRange

/-!
# Settings

What a command line asks of the program: a command, the index it works on, and how to keep a log. Options
stand before the command, and each may come from the environment.
-/

namespace Letterbox.CommandLine

/-- What the program is to do. -/
inductive Command where
  /-- Adds files to a mailbox. -/
  | append (mailbox : String) (first : Option Uid) (flags : List String) (files : List String)
  /-- Adds the messages of an archive to a mailbox. -/
  | importArchive (mailbox : String) (flags : List String) (path : String)
  /-- Lists the messages of a mailbox that meet a criterion. -/
  | search (mailbox : String) (criterion : String)
  /-- Sets the flags of messages. -/
  | setFlags (mailbox : String) (one other : Uid) (flags : List String)
  /-- Removes messages. -/
  | expunge (mailbox : String) (one other : Uid)
  /-- Counts documents. -/
  | statistics
deriving DecidableEq, Repr

/-- What a command line asks for. -/
structure Settings where
  logLevel : String
  ansiLogs : Bool
  logToFile : Bool
  jsonLogs : Bool
  logDirectory : String
  maxLogFiles : Nat
  indexDirectory : String
  maxResults : Nat
  shortestToken : Nat
  longestToken : Nat
  simpleAnalysis : Bool
  commitInterval : Option Nat
  command : Command
deriving DecidableEq, Repr

/-- The configuration of the index. -/
def Settings.config (settings : Settings) : Config where
  directory := some settings.indexDirectory
  maxResults := settings.maxResults
  shortestToken := settings.shortestToken
  longestToken := settings.longestToken
  substrings := ! settings.simpleAnalysis
  commitInterval := settings.commitInterval

namespace Scan

/-- The value of an argument; without one, the argument is missing. -/
def text (scan : Scan) (argument : Argument) : Except UsageFault String :=
  match scan.value? argument with
  | some value => .ok value
  | none => .error .missingArgument

/-- The number that an argument was given, if it was. -/
def number? (scan : Scan) (argument : Argument) : Except UsageFault (Option Nat) :=
  match scan.value? argument with
  | none => .ok none
  | some value =>
    match CommandLine.number? value with
    | some number => .ok (some number)
    | none => .error .unreadableValue

/-- The number of an argument. -/
def number (scan : Scan) (argument : Argument) : Except UsageFault Nat := do
  match ← scan.number? argument with
  | some number => .ok number
  | none => .error .missingArgument

/-- The message number of an argument. -/
def uid (scan : Scan) (argument : Argument) : Except UsageFault Uid := do
  return UInt64.ofNat (← scan.number argument)

/-- The truth value of an argument. -/
def truth (scan : Scan) (argument : Argument) : Except UsageFault Bool := do
  match truth? (← scan.text argument) with
  | some value => .ok value
  | none => .error .badValue

/-- All values of an argument. -/
def list (scan : Scan) (argument : Argument) : List String :=
  scan.valuesOf argument.name

end Scan

/-! ## The options before the command -/

/-- The level of the log. -/
def logLevelOption : Argument where
  name := "mailsearch-log-level"
  shape := .text
  environmentName := some "MAILSEARCH_LOG_LEVEL"
  fallback := some "info"
  about := "Set the log level for mailsearch"

/-- Whether the log is coloured. -/
def ansiLogsOption : Argument where
  name := "mailsearch-ansi-logs"
  shape := .truth
  environmentName := some "MAILSEARCH_ANSI_LOGS"
  fallback := some "true"
  about := "Enable ANSI formatted logs"

/-- Whether the log goes to files. -/
def logToFileOption : Argument where
  name := "mailsearch-log-to-file"
  shape := .truth
  environmentName := some "MAILSEARCH_LOG_TO_FILE"
  fallback := some "false"
  about := "Enable log file output (otherwise logs go to stdout)"

/-- Whether the log is JSON. -/
def jsonLogsOption : Argument where
  name := "mailsearch-json-logs"
  shape := .truth
  environmentName := some "MAILSEARCH_JSON_LOGS"
  fallback := some "false"
  about := "Enable JSON formatted logs"

/-- Where the files of the log are. -/
def logDirectoryOption : Argument where
  name := "mailsearch-log-dir"
  shape := .path
  environmentName := some "MAILSEARCH_LOG_DIR"
  fallback := some "logs"
  about := "Directory receiving rolling log files when file logging is enabled"

/-- How many files of the log are kept. -/
def maxLogFilesOption : Argument where
  name := "mailsearch-max-log-files"
  shape := .number
  environmentName := some "MAILSEARCH_MAX_LOG_FILES"
  fallback := some "5"
  about := "Set the maximum number of retained log files"

/-- Where the index is. -/
def indexDirectoryOption : Argument where
  name := "mailsearch-index-dir"
  shape := .directory
  isRequired := true
  environmentName := some "MAILSEARCH_INDEX_DIR"
  about := "Set the directory holding the search index"

/-- How many results a search has at most. -/
def maxResultsOption : Argument where
  name := "mailsearch-max-query-results"
  shape := .number
  environmentName := some "MAILSEARCH_MAX_QUERY_RESULTS"
  fallback := some "100000"
  about := "Maximum number of UIDs returned by a single search"

/-- The length of the shortest tokens. -/
def shortestTokenOption : Argument where
  name := "mailsearch-min-token-length"
  shape := .number
  environmentName := some "MAILSEARCH_MIN_TOKEN_LENGTH"
  fallback := some "3"
  about := "Shortest substring token indexed"

/-- The length of the longest tokens. -/
def longestTokenOption : Argument where
  name := "mailsearch-max-token-length"
  shape := .number
  environmentName := some "MAILSEARCH_MAX_TOKEN_LENGTH"
  fallback := some "40"
  about := "Longest substring token indexed"

/-- Whether only words are found. -/
def simpleAnalysisOption : Argument where
  name := "mailsearch-simple-analyzer"
  shape := .truth
  environmentName := some "MAILSEARCH_SIMPLE_ANALYZER"
  fallback := some "false"
  about := "Use the whitespace analyzer instead of substring n-grams"

/-- The seconds between commits. -/
def commitIntervalOption : Argument where
  name := "mailsearch-commit-interval"
  shape := .number
  environmentName := some "MAILSEARCH_COMMIT_INTERVAL"
  about := "Commit buffered writes every N seconds instead of after each write"

/-- The options before the command. -/
def globalOptions : List Argument :=
  [logLevelOption, ansiLogsOption, logToFileOption, jsonLogsOption, logDirectoryOption,
    maxLogFilesOption, indexDirectoryOption, maxResultsOption, shortestTokenOption, longestTokenOption,
    simpleAnalysisOption, commitIntervalOption]

/-! ## The arguments of commands -/

/-- The mailbox that a command works on. -/
def mailboxOption : Argument where
  name := "mailbox"
  shape := .text
  isRequired := true

/-- The number of the first message that is added. -/
def firstUidOption : Argument where
  name := "uid"
  shape := .number
  about := "UID of the first file; defaults to one past the highest indexed UID"

/-- One end of a range of message numbers. -/
def fromOption : Argument where
  name := "from"
  shape := .number
  isRequired := true

/-- The other end of a range of message numbers. -/
def toOption : Argument where
  name := "to"
  shape := .number
  isRequired := true

/-- Flags with commas between. -/
def flagsArgument : Argument where
  name := "flags"
  shape := .text
  isList := true
  isSplit := true

/-- The flags of the messages that are added. -/
def addedFlagsOption : Argument where
  name := "flags"
  shape := .text
  isList := true
  isSplit := true
  about := "Flags applied to every appended message, e.g. '\\Seen,$Work'"

/-- The files of messages. -/
def filesOperand : Argument where
  name := "files"
  shape := .path
  isRequired := true
  isList := true

/-- The file of an archive. -/
def pathOperand : Argument where
  name := "path"
  shape := .path
  isRequired := true

/-- The text of a criterion. -/
def criterionOperand : Argument where
  name := "criterion"
  shape := .text
  isRequired := true

/-! ## The commands -/

/-- A command as it is written, and how it is read once its arguments are known. -/
structure CommandWords where
  name : String
  about : String
  options : List Argument
  operands : List Argument
  read : Scan → Except UsageFault Command

/-- The words for adding files. -/
def appendWords : CommandWords where
  name := "append"
  about := "Append .eml files to a mailbox"
  options := [mailboxOption, firstUidOption, addedFlagsOption]
  operands := [filesOperand]
  read scan := do
    let first ← scan.number? firstUidOption
    return .append (← scan.text mailboxOption) (first.map UInt64.ofNat)
      (scan.list addedFlagsOption) (scan.list filesOperand)

/-- The words for importing an archive. -/
def importWords : CommandWords where
  name := "import-mbox"
  about := "Import every message of an mbox archive into a mailbox"
  options := [mailboxOption, flagsArgument]
  operands := [pathOperand]
  read scan := do
    return .importArchive (← scan.text mailboxOption) (scan.list flagsArgument) (← scan.text pathOperand)

/-- The words for a search. -/
def searchWords : CommandWords where
  name := "search"
  about := "Search a mailbox with a JSON criterion and print matching UIDs"
  options := [mailboxOption]
  operands := [criterionOperand]
  read scan := do
    return .search (← scan.text mailboxOption) (← scan.text criterionOperand)

/-- The words for setting flags. -/
def flagsWords : CommandWords where
  name := "flags"
  about := "Replace the flags of a UID range"
  options := [mailboxOption, fromOption, toOption]
  operands := [flagsArgument]
  read scan := do
    return .setFlags (← scan.text mailboxOption) (← scan.uid fromOption) (← scan.uid toOption)
      (scan.list flagsArgument)

/-- The words for removing messages. -/
def expungeWords : CommandWords where
  name := "expunge"
  about := "Remove a UID range from the index"
  options := [mailboxOption, fromOption, toOption]
  operands := []
  read scan := do
    return .expunge (← scan.text mailboxOption) (← scan.uid fromOption) (← scan.uid toOption)

/-- The words for counting documents. -/
def statisticsWords : CommandWords where
  name := "stats"
  about := "Print document counts of the index"
  options := []
  operands := []
  read _ := .ok .statistics

/-- All commands. -/
def commands : List CommandWords :=
  [appendWords, importWords, searchWords, flagsWords, expungeWords, statisticsWords]

/-- The grammar of the words before the command. -/
def globalGrammar : Grammar :=
  { topic := .program, options := globalOptions, operands := [], subcommands := commands.map (·.name),
    hasVersion := true }

/-- The grammar of the words behind a command. -/
def CommandWords.grammar (words : CommandWords) : Grammar :=
  { topic := .command words.name, options := words.options, operands := words.operands,
    subcommands := [], hasVersion := false }

/-! ## Reading -/

/-- Reads the words behind a command. -/
def readCommand (files : FileTree) (words : CommandWords) (arguments : List String) :
    Except UsageFault Command := do
  let (scan, _) ← Scan.run words.grammar files (Scan.start words.grammar) arguments
  let settled ← scan.settle files
  settled.requireAll (words.options ++ words.operands)
  words.read settled

/-- Explains a subcommand, if there is one with the name that follows and nothing more. -/
def helpFault : List String → UsageFault
  | [] => .helpAsked .program
  | [name] =>
    if name = helpSubcommand then .helpAsked .help
    else if globalGrammar.isSubcommand name then .helpAsked (.command name)
    else .unknownSubcommand
  | _ => .unknownSubcommand

/-- Reads the command that a scan met. -/
def readSubcommand (files : FileTree) (name : String) (arguments : List String) :
    Except UsageFault Command :=
  match commands.find? (·.name == name) with
  | some words => readCommand files words arguments
  | none => .error (helpFault arguments)

/-- The settings, given the options before the command. -/
def settingsOf (scan : Scan) (command : Command) : Except UsageFault Settings := do
  return {
    logLevel := ← scan.text logLevelOption
    ansiLogs := ← scan.truth ansiLogsOption
    logToFile := ← scan.truth logToFileOption
    jsonLogs := ← scan.truth jsonLogsOption
    logDirectory := ← scan.text logDirectoryOption
    maxLogFiles := ← scan.number maxLogFilesOption
    indexDirectory := ← scan.text indexDirectoryOption
    maxResults := ← scan.number maxResultsOption
    shortestToken := ← scan.number shortestTokenOption
    longestToken := ← scan.number longestTokenOption
    simpleAnalysis := ← scan.truth simpleAnalysisOption
    commitInterval := ← scan.number? commitIntervalOption
    command }

/-- What is wrong when there is no command. -/
def noCommandFault (scan : Scan) : UsageFault :=
  if scan.found.isEmpty then .nothingGiven else .missingSubcommand

/--
Reads a command line. The words behind the command are looked at before the last option in front of it
and before the environment.
-/
def readSettings (files : FileTree) (environment : List (String × String)) (arguments : List String) :
    Except UsageFault Settings := do
  let (scan, met) ← Scan.run globalGrammar files (Scan.start globalGrammar) arguments
  let command ←
    match met with
    | some (name, rest) => (readSubcommand files name rest).map some
    | none => .ok none
  let settled ← scan.settle files
  let complete ← settled.giveVariables files environment globalOptions
  match command with
  | none => .error (noCommandFault complete)
  | some command => do
    complete.requireAll globalOptions
    settingsOf complete command

end Letterbox.CommandLine
