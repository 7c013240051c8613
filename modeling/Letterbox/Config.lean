import Letterbox.Analysis
import Letterbox.FileTree

/-!
# Configurations

How an index is kept: where, with which tokens, with which resources, and when writes become visible.
-/

namespace Letterbox

/-- The configuration of an index. -/
structure Config where
  /-- The directory of the index; without one it is kept in memory. -/
  directory : Option String := none
  /-- The largest number of results of a search. -/
  maxResults : Nat := 100000
  shortestToken : Nat := 3
  longestToken : Nat := 40
  /-- Whether every piece of a text can be found, or only the starts of words. -/
  substrings : Bool := true
  /-- The memory of the writer in bytes. -/
  writerMemory : Nat := 67108864
  writerThreads : Nat := 1
  /-- The seconds between commits; without it every write is committed at once. -/
  commitInterval : Option Nat := none
deriving DecidableEq, Repr

/-- The least memory for each thread of a writer. -/
def leastThreadMemory : Nat := 15000000

/-- The memory from which on a thread of a writer is refused. -/
def mostThreadMemory : Nat := 4293967295

namespace Config

/-- A configuration for a small index in memory. -/
def small : Config := { writerMemory := 2 * leastThreadMemory }

/-- How texts are analysed: token lengths out of order are put right. -/
def analysis (config : Config) : Analysis :=
  if config.substrings then
    let shortest := max config.shortestToken 1
    .substrings shortest (max config.longestToken shortest)
  else .words

/-- Whether writes are visible as soon as they are done. -/
def commitsAtOnce (config : Config) : Bool :=
  config.commitInterval.isNone

/-- Accepts a configuration whose numbers make sense; of several faults the first is named. -/
def validateNumbers (config : Config) : Except Failure Unit :=
  if config.maxResults = 0 then .error .noResultsAllowed
  else if config.shortestToken = 0 ∨ config.longestToken < config.shortestToken then
    .error (.tokenLengths config.shortestToken config.longestToken)
  else if config.writerThreads = 0 then .error .noWriterThreads
  else if config.writerMemory / config.writerThreads < leastThreadMemory then
    .error (.writerMemory config.writerMemory config.writerThreads leastThreadMemory)
  else if config.commitInterval = some 0 then .error .zeroCommitInterval
  else .ok ()

/-- Accepts a configuration that also keeps its index where no file is. -/
def validate (files : FileTree) (config : Config) : Except Failure Unit :=
  match config.validateNumbers, config.directory with
  | .error cause, _ => .error cause
  | .ok (), none => .ok ()
  | .ok (), some directory =>
    if files.exists? directory ∧ ! files.isDirectory directory then
      .error (.notAnIndexDirectory directory)
    else .ok ()

end Config

end Letterbox
