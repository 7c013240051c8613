import Letterbox.Proofs.Ledger
import Letterbox.Proofs.SearchAnswer

/-!
# Messages that searches find

A search lists the numbers of the messages that its query selects, as many as are allowed. Main statements: a
message that is selected is found, and one that is not selected is not listed.
-/

namespace Letterbox

@[simp] theorem Query.selects_startingAll {entry : Entry} {field : Field} {starts : List Term} :
    (startingAll field starts).selects entry = true
      ↔ ∀ start ∈ starts, ∃ term ∈ entry.terms field, start <+: term := by
  simp only [startingAll, selects_everyOf, List.forall_mem_map, selects_starting]

theorem Query.selects_startingAll_of_terms {entry : Entry} {field : Field} {starts : List Term}
    (terms : ∀ start ∈ starts, start ∈ entry.terms field) :
    (startingAll field starts).selects entry = true :=
  selects_startingAll.mpr fun start wanted => ⟨start, terms start wanted, List.prefix_rfl⟩

/-- A header is named validly if not only by blanks. -/
theorem Criterion.validate_header {name : String} (proper : Text.trim name.toList ≠ []) (test : HeaderTest)
    (undated : ∀ date, test ≠ .date date) : (header name test).validate = .ok () := by
  have named : ¬ (Text.trim name.toList).isEmpty = true := by simpa using proper
  cases test with
  | date test => exact absurd rfl (undated test)
  | _ => exact if_neg named

namespace Index

/-- A search does not miss a message: it lists its number, or else as many lower ones as are allowed. -/
def Finds (index : Index) (mailbox : Mailbox) (criterion : Criterion) (uid : Uid) : Prop :=
  ∃ uids, index.search mailbox criterion = .ok uids
    ∧ (uid ∈ uids ∨ index.config.maxResults ≤ uids.length ∧ ∀ other ∈ uids, other ≤ uid)

/-- A search gives an answer in which the number of a message is not. -/
def Omits (index : Index) (mailbox : Mailbox) (criterion : Criterion) (uid : Uid) : Prop :=
  ∃ uids, index.search mailbox criterion = .ok uids ∧ uid ∉ uids

/-- The query for a criterion selects the content of a message. -/
def Selects (index : Index) (criterion : Criterion) (content : ContentDocument) : Prop :=
  ∃ query, criterion.query? index.committed content.mailbox index.analysis = .ok query
    ∧ ∃ entry ∈ index.committed, entry.document = .content content ∧ query.selects entry = true

/-- What the query for a criterion selects is found. -/
theorem finds_of_selects {index : Index} {criterion : Criterion} {query : Query} {entry : Entry}
    (valid : criterion.validate = .ok ())
    (translated : criterion.query? index.committed entry.document.mailbox index.analysis = .ok query)
    (listed : entry ∈ index.committed) (indexed : isKept entry.document.mailbox.name.toList = true)
    (selected : query.selects entry = true) :
    index.Finds entry.document.mailbox criterion entry.uid := by
  obtain ⟨other, same, answer⟩ := index.search_eq entry.document.mailbox valid
  obtain rfl : query = other := Except.ok.inj (translated.symm.trans same)
  refine ⟨_, answer, ?_⟩
  have found : entry.uid ∈ index.committed.uids (.both (.inMailbox entry.document.mailbox) query) := by
    refine Snapshot.mem_uids.mpr ⟨entry, listed, ?_, rfl⟩
    rw [Query.selects_both, Query.selects_inMailbox]
    exact ⟨⟨rfl, indexed⟩, selected⟩
  have sorted := pairwise_sortedUids
    ((index.committed.select (.both (.inMailbox entry.document.mailbox) query)).map Entry.uid)
  rw [← Snapshot.uids_eq] at sorted
  rw [← List.take_append_drop (max index.config.maxResults 1) (index.committed.uids _)] at found sorted
  rcases List.mem_append.mp found with taken | dropped
  · exact Or.inl taken
  · -- what is left out comes behind a full answer
    have rest := List.length_pos_of_mem dropped
    rw [List.length_drop] at rest
    refine Or.inr ⟨?_, fun one first => (List.pairwise_append.mp sorted).2.2 one first _ dropped⟩
    rw [List.length_take]
    omega

variable {index : Index} {criterion : Criterion} {content : ContentDocument}

/-- Where a search lists nothing, it misses every message. -/
theorem not_finds_of_nothing {mailbox : Mailbox} {uid : Uid} (nothing : index.search mailbox criterion = .ok [])
    (allowed : 1 ≤ index.config.maxResults) : ¬ index.Finds mailbox criterion uid := by
  rintro ⟨uids, answer, found⟩
  obtain rfl : [] = uids := Except.ok.inj (nothing.symm.trans answer)
  rcases found with listed | ⟨full, -⟩
  · simp at listed
  · exact absurd full (Nat.not_le.mpr allowed)

theorem Selects.finds (selects : index.Selects criterion content) (valid : criterion.validate = .ok ())
    (indexed : isKept content.mailbox.name.toList = true) :
    index.Finds content.mailbox criterion content.uid := by
  obtain ⟨query, translated, entry, listed, document, selected⟩ := selects
  have mailbox : entry.document.mailbox = content.mailbox := congrArg Document.mailbox document
  have uid : entry.uid = content.uid := congrArg Document.uid document
  rw [← mailbox] at translated indexed ⊢
  rw [← uid]
  exact finds_of_selects valid translated listed indexed selected

/-- What a search lists is selected: there is no other message with the number. -/
theorem selects_of_listed (paired : index.committed.Paired)
    (live : .content content ∈ index.committed.documents) {uids : List Uid} (valid : criterion.validate = .ok ())
    (answer : index.search content.mailbox criterion = .ok uids) (listed : content.uid ∈ uids) :
    index.Selects criterion content := by
  obtain ⟨query, translated, found⟩ := index.search_eq content.mailbox valid
  obtain rfl := Except.ok.inj (answer.symm.trans found)
  obtain ⟨entry, present, selected, number⟩ := Snapshot.mem_uids.mp (List.mem_of_mem_take listed)
  rw [Query.selects_both, Query.selects_inMailbox] at selected
  obtain ⟨⟨own, kept⟩, chosen⟩ := selected
  have expressed := Criterion.expresses_query? paired kept translated
  have kind : entry.document.kind = .message := by
    cases kind : entry.document.kind with
    | message => rfl
    | flags => exact absurd chosen (expressed.on_flags entry kind)
  have document : entry.document = .content content :=
    paired.document_eq (List.mem_map_of_mem present) live (Entry.label_eq_iff.mpr ⟨kind, own, number⟩)
  exact ⟨query, translated, entry, present, document, chosen⟩

theorem omits_of_not_selects (paired : index.committed.Paired)
    (live : .content content ∈ index.committed.documents) (valid : criterion.validate = .ok ())
    (apart : ¬ index.Selects criterion content) : index.Omits content.mailbox criterion content.uid := by
  obtain ⟨query, -, answer⟩ := index.search_eq content.mailbox valid
  exact ⟨_, answer, fun listed => apart (selects_of_listed paired live valid answer listed)⟩

end Index

end Letterbox
