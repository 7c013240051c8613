import Letterbox.Mailbox
import Letterbox.Text.Quoted

/-!
# Failures

Every way in which an operation can fail is a cause of its own. A cause has a code, by which callers
react to it, and a message for people.
-/

namespace Letterbox

/-- The classes of failures. -/
inductive ErrorCode where
  | invalidParameter
  | missingConfiguration
  | unsupportedQuery
  | indexingFailed
  | indexUnavailable
  | internalError
  | ioError
deriving DecidableEq, Repr

namespace ErrorCode

/-- All codes, by number. -/
def all : List ErrorCode :=
  [invalidParameter, missingConfiguration, unsupportedQuery, indexingFailed, indexUnavailable,
    internalError, ioError]

/-- The name of a code. -/
def name : ErrorCode → String
  | invalidParameter => "InvalidParameter"
  | missingConfiguration => "MissingConfiguration"
  | unsupportedQuery => "UnsupportedQuery"
  | indexingFailed => "IndexingFailed"
  | indexUnavailable => "IndexUnavailable"
  | internalError => "InternalError"
  | ioError => "IoError"

/-- The number of a code. -/
def number : ErrorCode → Nat
  | invalidParameter => 10000
  | missingConfiguration => 10020
  | unsupportedQuery => 10040
  | indexingFailed => 60000
  | indexUnavailable => 60010
  | internalError => 70000
  | ioError => 70020

/-- A code is written as its name and its number. -/
def text (code : ErrorCode) : String :=
  code.name ++ "(" ++ toString code.number ++ ")"

/-- Trying again may help where the index or the disk may recover, and nowhere else. -/
def isRetryable (code : ErrorCode) : Bool :=
  code == indexUnavailable || code == ioError

/-- The numbers below 20000 are for mistakes of the caller. -/
def isClientError (code : ErrorCode) : Bool :=
  code.number < 20000

/-- The code with a name. -/
def named? (name : String) : Option ErrorCode :=
  all.find? (·.name == name)

end ErrorCode

/-- What can be wrong with a path. -/
inductive FileFault where
  | notFound
  | alreadyThere
  | notADirectory
  | isADirectory
  | nameTooLong
  | nulInName
  /-- A directory cannot be mapped into memory. -/
  | cannotBeMapped
  | other (text : String)
deriving DecidableEq, Repr

/-- The words of the system for a fault, with its number. -/
def FileFault.message : FileFault → String
  | notFound => "No such file or directory (os error 2)"
  | alreadyThere => "File exists (os error 17)"
  | notADirectory => "Not a directory (os error 20)"
  | isADirectory => "Is a directory (os error 21)"
  | nameTooLong => "File name too long (os error 36)"
  | nulInName => "file name contained an unexpected NUL byte"
  | cannotBeMapped => "No such device (os error 19)"
  | other text => text

/-- Why an operation failed. -/
inductive Failure where
  /-- A header was to be compared with a date. -/
  | headerDate (name : String)
  /-- A header criterion names no header. -/
  | headerNameMissing
  /-- A range of a criterion has its ends in the wrong order. -/
  | unorderedRange (range : UidRange)
  /-- The text of a criterion is not one. -/
  | malformedCriterion
  /-- A message was added to a mailbox that it does not belong to. -/
  | foreignMailbox (uid : Uid) (own target : Mailbox)
  /-- The content of a message has no structure. -/
  | malformedContent
  /-- A decoder gave up, with words of its own. -/
  | decoder (text : String)
  /-- A message could not be decoded. -/
  | undecodable (uid : Uid) (mailbox : Mailbox) (cause : Failure)
  /-- An operation came after the index was closed. -/
  | closed (operation : String)
  /-- A directory holds an index with other fields. -/
  | incompatible (field : String)
  /-- A directory holds something that is no index. -/
  | unreadableIndex (directory : String)
  /-- Another writer holds the index of a directory, or the writer's memory is out of bounds. -/
  | writerRefused (reason : String)
  /-- A limit of zero results. -/
  | noResultsAllowed
  /-- Token lengths that allow no token. -/
  | tokenLengths (shortest longest : Nat)
  /-- A writer without threads. -/
  | noWriterThreads
  /-- A writer with too little memory for its threads. -/
  | writerMemory (size threads least : Nat)
  /-- A commit interval of no time. -/
  | zeroCommitInterval
  /-- The path of the index is a file. -/
  | notAnIndexDirectory (path : String)
  /-- A mail archive could not be opened. -/
  | archive (path : String) (fault : FileFault)
  /-- A file could not be used. -/
  | file (fault : FileFault)
  /-- The logs could not be set up. -/
  | logging (text : String)
deriving DecidableEq, Repr

namespace Failure

/-- The class of a failure. -/
def code : Failure → ErrorCode
  | headerDate _ => .unsupportedQuery
  | headerNameMissing | unorderedRange _ | malformedCriterion | foreignMailbox _ _ _ => .invalidParameter
  | malformedContent | decoder _ | undecodable _ _ _ => .indexingFailed
  | closed _ | incompatible _ | unreadableIndex _ | writerRefused _ => .indexUnavailable
  | noResultsAllowed | tokenLengths _ _ | noWriterThreads | writerMemory _ _ _ | zeroCommitInterval =>
    .invalidParameter
  | notAnIndexDirectory _ | logging _ => .missingConfiguration
  | archive _ _ | file _ => .ioError

/-- The message of a failure. -/
def message : Failure → String
  | headerDate name =>
    "Date comparisons on header '" ++ name ++ "' are not supported by the search index"
  | headerNameMissing => "Header criteria require a header name"
  | unorderedRange range =>
    "Invalid UID range " ++ toString range.first.toNat ++ ":" ++ toString range.last.toNat
  | malformedCriterion => "Invalid search criterion"
  | foreignMailbox uid own target =>
    "Message uid=" ++ toString uid.toNat ++ " belongs to mailbox '" ++ own.name ++ "', not '"
      ++ target.name ++ "'"
  | malformedContent => "Failed to parse message content"
  | decoder text => text
  | undecodable uid mailbox cause =>
    "Failed to decode message uid=" ++ toString uid.toNat ++ " in mailbox '" ++ mailbox.name ++ "': "
      ++ cause.message
  | closed operation => "Cannot " ++ operation ++ ": the index writer is closed"
  | incompatible field =>
    "Existing index is incompatible: field '" ++ field ++ "' is missing or misplaced"
  | unreadableIndex directory => "Failed to open index in " ++ Text.quote directory ++ ":\n"
  | writerRefused reason => "Failed to create a writer:\n" ++ reason
  | noResultsAllowed => "max_query_results must be at least 1"
  | tokenLengths shortest longest =>
    "Token lengths must satisfy 1 <= min <= max, got min=" ++ toString shortest ++ " max="
      ++ toString longest
  | noWriterThreads => "writer_threads must be at least 1"
  | writerMemory size threads least =>
    "writer_heap_size " ++ toString size ++ " is too small for " ++ toString threads
      ++ " threads (at least " ++ toString least ++ " bytes per thread)"
  | zeroCommitInterval => "commit_interval_secs must be positive when set"
  | notAnIndexDirectory path => "Index path " ++ Text.quote path ++ " is not a directory"
  | archive path fault => "Failed to open mbox file " ++ Text.quote path ++ ": " ++ fault.message
  | file fault => fault.message
  | logging text => text

/-- Whether trying again may help. -/
def isRetryable (failure : Failure) : Bool :=
  failure.code.isRetryable

end Failure

end Letterbox
