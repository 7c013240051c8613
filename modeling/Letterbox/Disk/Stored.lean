import Letterbox.Disk
import Letterbox.Json.Reader
import Letterbox.Json.Writer

/-!
# Stored indexes

The text in which an index rests on disk: its fields, and each document with the analysis that gave its
terms. The terms themselves are not written; they are found again when the text is read.
-/

namespace Letterbox

namespace Analysis

/-- The JSON form: the token lengths, or nothing for words. -/
def toJson : Analysis → Json
  | substrings shortest longest => .array [Json.nat shortest, Json.nat longest]
  | words => .null

/-- The analysis with a JSON form. -/
def ofJson? : Json → Option Analysis
  | .null => some words
  | .array [shortest, longest] =>
    return .substrings (← shortest.word?).toNat (← longest.word?).toNat
  | _ => none

end Analysis

namespace Mime.HeaderField

/-- The JSON form. -/
def toJson (field : HeaderField) : Json :=
  .array
    [Json.str field.name, Json.str field.value,
      (field.addresses.map Json.strings).getD .null]

/-- The header with a JSON form. -/
def ofJson? : Json → Option HeaderField
  | .array [name, value, .null] => return ⟨← name.text?, ← value.text?, none⟩
  | .array [name, value, .array addresses] =>
    return ⟨← name.text?, ← value.text?, some (← addresses.mapM Json.text?)⟩
  | _ => none

end Mime.HeaderField

namespace Document

/-- The JSON form. -/
def toJson : Document → Json
  | content document =>
    Json.record
      [("mailbox", Json.str document.mailbox.name), ("uid", Json.word document.uid),
        ("mod_seq", Json.word document.modSeq), ("size", Json.word document.size),
        ("date", .array [Json.int document.date.seconds, Json.nat document.date.nanos]),
        ("headers", .array (document.headers.map Mime.HeaderField.toJson)),
        ("bodies", Json.strings document.bodies)]
  | flags document =>
    Json.record
      [("mailbox", Json.str document.mailbox.name), ("uid", Json.word document.uid),
        ("flags", document.flags.toJson)]

/-- The moment with a JSON form. -/
def dateOfJson? : Json → Option Instant
  | .array [seconds, nanos] => do Instant.of? (← seconds.int?) (← nanos.word?).toNat
  | _ => none

/-- The document with a JSON form. -/
def ofJson? (value : Json) : Option Document := do
  let mailbox : Mailbox := ⟨← (← value.member? "mailbox").text?⟩
  let uid ← (← value.member? "uid").word?
  match value.member? "flags" with
  | some found => return .flags ⟨mailbox, uid, ← Flags.ofJson? found⟩
  | none =>
    return .content
      { mailbox
        uid
        modSeq := ← (← value.member? "mod_seq").word?
        size := ← (← value.member? "size").word?
        date := ← dateOfJson? (← value.member? "date")
        headers := ← (← (← value.member? "headers").items?).mapM Mime.HeaderField.ofJson?
        bodies := ← (← (← value.member? "bodies").items?).mapM Json.text? }

end Document

namespace Entry

/-- The JSON form. -/
def toJson (entry : Entry) : Json :=
  .array [entry.analysis.toJson, entry.document.toJson]

/-- The entry with a JSON form. -/
def ofJson? : Json → Option Entry
  | .array [analysis, document] =>
    return .ofDocument (← Analysis.ofJson? analysis) (← Document.ofJson? document)
  | _ => none

end Entry

namespace FieldEntry

/-- The JSON form. -/
def toJson (entry : FieldEntry) : Json :=
  .array [Json.str entry.name, Json.str entry.type.name]

/-- The field with a JSON form. -/
def ofJson? : Json → Option FieldEntry
  | .array [name, type] => return ⟨← name.text?, .named (← type.text?)⟩
  | _ => none

end FieldEntry

namespace StoredIndex

/-- The text of an index at rest. -/
def toText (stored : StoredIndex) : String :=
  (Json.record
    [("schema", .array (stored.schema.map FieldEntry.toJson)),
      ("entries", .array (stored.entries.map Entry.toJson))]).compact

/-- The index at rest that a text describes. -/
def ofText? (text : String) : Option StoredIndex := do
  let value ← Json.ofString? text
  return {
    schema := ← (← (← value.member? "schema").items?).mapM FieldEntry.ofJson?
    entries := ← (← (← value.member? "entries").items?).mapM Entry.ofJson? }

end StoredIndex

end Letterbox
