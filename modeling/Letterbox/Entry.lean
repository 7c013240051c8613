import Letterbox.Analysis
import Letterbox.Document

/-!
# Entries

An entry of an index is a document with the terms by which it is found. Texts for reading are analysed;
keys, kinds, mailboxes and flags are one term each, as they stand.
-/

namespace Letterbox

/-- A piece of text by which documents are found. -/
abbrev Term := List Char

/-- The largest number of bytes of a term; longer ones are left out. -/
def maxTermBytes : Nat := 65530

/-- The terms of a text in a field. -/
def Analysis.termsOf (analysis : Analysis) (field : Field) (text : List Char) : List Term :=
  match field with
  | .headers | .body | .addresses _ => (analysis.tokens text).map (·.text)
  | .header => (analysis.headerTokens text).map (·.text)
  | _ => [text]

/-- Whether a term is short enough to be kept. -/
def isKept (term : Term) : Bool :=
  Text.byteSize term ≤ maxTermBytes

/-- The text of a value; numbers have none. -/
def Value.text? : Value → Option (List Char)
  | .text content => some content.toList
  | _ => none

/-- The number that a value is. -/
def Value.number? : Value → Option Int
  | .text _ => none
  | .word value => some value.toNat
  | .integer value => some value

namespace Document

/-- The terms of a document in a field. -/
def terms (analysis : Analysis) (document : Document) (field : Field) : List Term :=
  (((document.values field).filterMap Value.text?).flatMap (analysis.termsOf field)).filter isKept

/-- The numbers of a document in a field. -/
def numbers (document : Document) (field : Field) : List Int :=
  (document.values field).filterMap Value.number?

/-- The terms of a document, field by field. -/
def termTable (analysis : Analysis) (document : Document) : List (Field × List Term) :=
  Field.all.map fun field => (field, document.terms analysis field)

end Document

/-- A document with its terms, which are those of an analysis. -/
structure Entry where
  document : Document
  analysis : Analysis
  table : List (Field × List Term)
  analysed : table = document.termTable analysis

namespace Entry

/-- The entry of a document. -/
def ofDocument (analysis : Analysis) (document : Document) : Entry :=
  ⟨document, analysis, document.termTable analysis, rfl⟩

/-- The terms of an entry in a field. -/
def terms (entry : Entry) (field : Field) : List Term :=
  (entry.table.lookup field).getD []

theorem lookup_map {α : Type} (f : Field → α) (field : Field) (fields : List Field)
    (h : field ∈ fields) : (fields.map fun one => (one, f one)).lookup field = some (f field) := by
  induction fields with
  | nil => simp at h
  | cons one rest ih =>
    by_cases hf : field = one
    · simp [hf]
    · have hb : (field == one) = false := by simp [hf]
      simp only [List.map_cons, List.lookup_cons, hb]
      exact ih ((List.mem_cons.mp h).resolve_left hf)

/-- The kept terms are those of the document. -/
theorem terms_eq (entry : Entry) (field : Field) :
    entry.terms field = entry.document.terms entry.analysis field := by
  have h : field ∈ Field.all := by
    cases field with
    | addresses role => cases role <;> decide
    | internalDate resolution => cases resolution <;> decide
    | _ => decide
  rw [terms, entry.analysed, Document.termTable, lookup_map _ _ _ h]
  rfl

/-- The number of the message that an entry belongs to. -/
def uid (entry : Entry) : Uid :=
  entry.document.uid

end Entry

end Letterbox
