import Letterbox.Proofs.SubstringSearch

/-!
# Searches for terms of one field

A search for a text or for a value in a header asks whether some starts begin terms of a message. Main statements:
for each kind of search, which starts they are and in which field of the message's own document.
-/

namespace Letterbox

open Text

/-- The bounds on tokens are in order, and no token is empty. -/
def Analysis.IsBounded : Analysis → Prop
  | .substrings shortest longest => 1 ≤ shortest ∧ shortest ≤ longest
  | .words => True

/-- A configuration puts its token lengths in order. -/
theorem Config.isBounded_analysis (config : Config) : config.analysis.IsBounded := by
  unfold Config.analysis
  split
  · exact ⟨Nat.le_max_right _ _, Nat.le_max_right _ _⟩
  · trivial

/-- A start begins a term of a document in a field. -/
def Document.HasStart (document : Document) (analysis : Analysis) (field : Field) (start : Term) : Prop :=
  ∃ term ∈ document.terms analysis field, start <+: term

theorem Query.selects_startingAll_ofDocument {analysis : Analysis} {document : Document} {field : Field}
    {starts : List Term} : (startingAll field starts).selects (.ofDocument analysis document) = true
      ↔ ∀ start ∈ starts, document.HasStart analysis field start := by
  rw [selects_startingAll, Entry.terms_eq]
  rfl

namespace Index

/-- A search selects a message and finds it, which it cannot if the mailbox has a name that is not indexed. -/
structure Hits (index : Index) (criterion : Criterion) (content : ContentDocument) : Prop where
  selects : index.Selects criterion content
  finds : isKept content.mailbox.name.toList = true → index.Finds content.mailbox criterion content.uid

theorem Selects.hits {index : Index} {criterion : Criterion} {content : ContentDocument}
    (selects : index.Selects criterion content) (valid : criterion.validate = .ok ()) :
    index.Hits criterion content :=
  ⟨selects, selects.finds valid⟩

namespace Lives

variable {config : Config} {index : Index} {content : ContentDocument} (lives : Lives config index)
  (live : .content content ∈ index.committed.documents)

include lives

theorem isBounded_analysis : index.analysis.IsBounded := by
  rw [lives.analysis_eq]
  exact config.isBounded_analysis

include live

/-- A search selects a message exactly if its query selects the entry of the content. -/
theorem selects_iff {criterion : Criterion} {query : Query}
    (translated : criterion.query? index.committed content.mailbox index.analysis = .ok query) :
    index.Selects criterion content
      ↔ query.selects (.ofDocument index.analysis (.content content)) = true := by
  constructor
  · rintro ⟨other, same, entry, listed, document, selected⟩
    obtain rfl := Except.ok.inj (translated.symm.trans same)
    obtain ⟨held, shape⟩ := entry.exists_content (by rw [document]; rfl)
    rw [lives.uniform.committed entry listed] at shape
    rw [shape] at document selected
    obtain rfl := Document.content.inj document
    exact selected
  · exact fun selected => ⟨query, translated, _, lives.content_mem live, rfl, selected⟩

/-- In a header all query terms are looked for behind its scope. -/
theorem selects_contains {name value : String} :
    index.Selects (.header name (.contains value)) content ↔ ∀ start ∈ index.analysis.queryTerms value.toList,
      (Document.content content).HasStart index.analysis .header (headerScope name.toList ++ start) := by
  rw [lives.selects_iff live rfl, scopedQuery, Query.selects_startingAll_ofDocument, List.forall_mem_map]

/-- Among the addresses of a role all query terms are looked for. -/
theorem selects_address {name value : String} {role : AddressRole}
    (asked : AddressRole.ofHeader? (String.ofList (trim name.toList)) = some role) :
    index.Selects (.header name (.address value)) content ↔ ∀ start ∈ index.analysis.queryTerms value.toList,
      (Document.content content).HasStart index.analysis (.addresses role) start := by
  have translated : (Criterion.header name (.address value)).query? index.committed content.mailbox
      index.analysis = .ok (.startingAll (.addresses role) (index.analysis.queryTerms value.toList)) := by
    rw [Criterion.query?, HeaderTest.query?, asked]
  rw [lives.selects_iff live translated, Query.selects_startingAll_ofDocument]

end Lives

end Index

end Letterbox
