import Letterbox.Config
import Letterbox.Json.Bounds
import Letterbox.Json.Reader

/-!
# Configurations as JSON

An object with a member for each setting. A setting that is left out keeps its default, and members of
other names are not looked at. Only the directory and the commit interval may be `null`.
-/

namespace Letterbox

namespace Json

/-- The value of a setting: the default if its member is left out, nothing if it cannot be read. -/
def setting? {α : Type} (object : Json) (key : String) (read : Json → Option α) (default : α) :
    Option α :=
  match object.member? key with
  | none => some default
  | some value => read value

/-- A number as it counts things. -/
def count? (value : Json) : Option Nat :=
  value.word?.map UInt64.toNat

/-- A value that `null` leaves out. -/
def optional? {α : Type} (read : Json → Option α) : Json → Option (Option α)
  | .null => some none
  | value => (read value).map some

/-- A number, or `null` in its place. -/
def countOrNull (value : Option Nat) : Json :=
  (value.map nat).getD .null

end Json

namespace Config

/-- The JSON form. -/
def toJson (config : Config) : Json :=
  Json.record
    [("index_dir", (config.directory.map Json.str).getD .null),
      ("max_query_results", Json.nat config.maxResults),
      ("min_token_length", Json.nat config.shortestToken),
      ("max_token_length", Json.nat config.longestToken),
      ("substring_analysis", .bool config.substrings),
      ("writer_heap_size", Json.nat config.writerMemory),
      ("writer_threads", Json.nat config.writerThreads),
      ("commit_interval_secs", Json.countOrNull config.commitInterval)]

/-- The configuration that an object describes. -/
def ofObject? (object : Json) : Option Config := do
  let default : Config := {}
  some
    { directory := ← object.setting? "index_dir" (Json.optional? Json.text?) default.directory
      maxResults := ← object.setting? "max_query_results" Json.count? default.maxResults
      shortestToken := ← object.setting? "min_token_length" Json.count? default.shortestToken
      longestToken := ← object.setting? "max_token_length" Json.count? default.longestToken
      substrings := ← object.setting? "substring_analysis" Json.bool? default.substrings
      writerMemory := ← object.setting? "writer_heap_size" Json.count? default.writerMemory
      writerThreads := ← object.setting? "writer_threads" Json.count? default.writerThreads
      commitInterval :=
        ← object.setting? "commit_interval_secs" (Json.optional? Json.count?) default.commitInterval }

/-- The configuration with a JSON form, which is representable throughout. -/
def ofJson? : Json → Option Config
  | .object members =>
    if (Json.object members).isBounded Json.deepest then ofObject? (.object members) else none
  | _ => none

end Config

end Letterbox
