import Letterbox.Proofs.CriterionMeaning
import Letterbox.Proofs.CriterionValidity

/-!
# Answers of searches

Main statement: a search lists the lowest numbers of exactly those messages of its mailbox that meet the
criterion, in strict order and as many as the configuration allows. A mailbox whose name is too long to be
indexed has no messages for a search.
-/

namespace Letterbox

namespace Entry

variable {entry : Entry}

theorem exists_content (kind : entry.document.kind = .message) :
    ∃ content, entry = .ofDocument entry.analysis (.content content) := by
  obtain ⟨document, analysis, table, rfl⟩ := entry
  cases document with
  | content content => exact ⟨content, rfl⟩
  | flags flags => simp [Document.kind] at kind

theorem exists_flags (kind : entry.document.kind = .flags) :
    ∃ flags, entry = .ofDocument entry.analysis (.flags flags) := by
  obtain ⟨document, analysis, table, rfl⟩ := entry
  cases document with
  | content content => simp [Document.kind] at kind
  | flags flags => exact ⟨flags, rfl⟩

end Entry

namespace Snapshot

variable {snapshot : Snapshot} {mailbox : Mailbox} {query : Query}

/-- The two entries of one message are paired. -/
theorem paired_message {content : ContentDocument} {flags : FlagsDocument} (analysis : Analysis)
    (mailbox : flags.mailbox = content.mailbox) (uid : flags.uid = content.uid) :
    Paired [.ofDocument analysis (.content content), .ofDocument analysis (.flags flags)] := by
  intro other number
  have listed : labels [.ofDocument analysis (.content content), .ofDocument analysis (.flags flags)]
      = [⟨.message, content.mailbox, content.uid⟩, ⟨.flags, flags.mailbox, flags.uid⟩] := rfl
  rw [listed, mailbox, uid]
  by_cases same : content.mailbox = other ∧ content.uid = number
  · obtain ⟨rfl, rfl⟩ := same
    exact Or.inl ⟨by simp, by simp⟩
  · refine Or.inr ⟨?_, ?_⟩
    · simp [same]
    · simp [same]

/-- Every content is that of a message. -/
theorem Paired.exists_message (paired : snapshot.Paired) {entry : Entry} (listed : entry ∈ snapshot)
    (content : entry.document.kind = .message) :
    ∃ message, snapshot.Holds message ∧ message.contentEntry = entry := by
  have own : (⟨.message, entry.document.mailbox, entry.uid⟩ : DocumentLabel) ∈ snapshot.labels :=
    mem_labels.mpr ⟨entry, listed, Entry.label_eq_iff.mpr ⟨content, rfl, rfl⟩⟩
  obtain ⟨other, found, label⟩ := mem_labels.mp (paired.content_iff_flags.mp own)
  obtain ⟨flags, mailbox, uid⟩ := Entry.label_eq_iff.mp label
  obtain ⟨held, shape⟩ := entry.exists_content content
  obtain ⟨set, otherShape⟩ := other.exists_flags flags
  rw [shape] at listed mailbox uid
  rw [otherShape] at found mailbox uid
  exact ⟨⟨held, entry.analysis, set, other.analysis⟩, ⟨listed, found, mailbox, uid⟩, shape.symm⟩

/-- The documents of one kind in a mailbox that answer a query have different numbers. -/
theorem Paired.nodup_uids {kind : DocumentKind} (paired : snapshot.Paired)
    (alike : ∀ entry ∈ snapshot, query.selects entry = true →
      entry.document.kind = kind ∧ entry.document.mailbox = mailbox) :
    ((snapshot.select query).map Entry.uid).Nodup := by
  have distinct : (snapshot.select query).Nodup := (paired.nodup.of_map _).filter _
  refine List.Nodup.map_on (fun one first other second same => ?_) distinct
  obtain ⟨listed, selected⟩ := mem_select.mp first
  obtain ⟨present, chosen⟩ := mem_select.mp second
  obtain ⟨own, place⟩ := alike one listed selected
  refine paired.entry_eq listed present ((Entry.label_eq_iff.mpr ⟨own, place, same⟩).trans ?_)
  obtain ⟨own, place⟩ := alike other present chosen
  exact (Entry.label_eq_iff.mpr ⟨own, place, rfl⟩).symm

end Snapshot

namespace Index

/-- A search for a valid criterion takes the first numbers that its query finds. -/
theorem search_eq (index : Index) (mailbox : Mailbox) {criterion : Criterion}
    (valid : criterion.validate = .ok ()) :
    ∃ query, criterion.query? index.committed mailbox index.analysis = .ok query
      ∧ index.search mailbox criterion
        = .ok ((index.committed.uids (.both (.inMailbox mailbox) query)).take
          (max index.config.maxResults 1)) := by
  obtain ⟨query, translated⟩ := Criterion.exists_query? valid
  refine ⟨query, translated, ?_⟩
  rw [search, valid]
  simp only [Criterion.translate, translated, Snapshot.firstUids]

/-- A search fails as the check of its criterion does, and for nothing else. -/
theorem search_error_iff {index : Index} {mailbox : Mailbox} {criterion : Criterion} {failure : Failure} :
    index.search mailbox criterion = .error failure ↔ criterion.validate = .error failure := by
  cases valid : criterion.validate with
  | ok accepted =>
      obtain ⟨query, -, answered⟩ := index.search_eq mailbox valid
      simp [answered]
  | error cause =>
      rw [search, valid]
      simp only [Except.error.injEq]

/-- A message of a mailbox has a number and meets a criterion. -/
def IsMatch (index : Index) (mailbox : Mailbox) (criterion : Criterion) (uid : Uid) : Prop :=
  ∃ message, index.committed.Holds message ∧ message.content.mailbox = mailbox
    ∧ message.content.uid = uid ∧ criterion.Meets index.analysis message

/-- The numbers that the query for a criterion finds are those of the messages that meet it. -/
theorem mem_uids_query {index : Index} {mailbox : Mailbox} {criterion : Criterion} {query : Query}
    (paired : index.committed.Paired)
    (translated : criterion.query? index.committed mailbox index.analysis = .ok query) (uid : Uid) :
    uid ∈ index.committed.uids (.both (.inMailbox mailbox) query)
      ↔ isKept mailbox.name.toList = true ∧ index.IsMatch mailbox criterion uid := by
  simp only [Snapshot.mem_uids, Query.selects_both, Query.selects_inMailbox]
  constructor
  · rintro ⟨entry, listed, ⟨⟨own, kept⟩, selected⟩, number⟩
    have expressed := Criterion.expresses_query? paired kept translated
    have content : entry.document.kind = .message := by
      cases kind : entry.document.kind with
      | message => rfl
      | flags => exact absurd selected (expressed.on_flags entry kind)
    obtain ⟨message, held, rfl⟩ := paired.exists_message listed content
    exact ⟨kept, message, held, own, number, (expressed.on_content message held own).mp selected⟩
  · rintro ⟨kept, message, held, own, number, meets⟩
    have expressed := Criterion.expresses_query? paired kept translated
    exact ⟨message.contentEntry, held.content,
      ⟨⟨own, kept⟩, (expressed.on_content message held own).mpr meets⟩, number⟩

/-- The numbers that the query for a criterion finds in a mailbox are in strict order. -/
theorem strict_uids_query {index : Index} {mailbox : Mailbox} {criterion : Criterion} {query : Query}
    (paired : index.committed.Paired)
    (translated : criterion.query? index.committed mailbox index.analysis = .ok query) :
    (index.committed.uids (.both (.inMailbox mailbox) query)).Pairwise (· < ·) := by
  have contents : ∀ entry ∈ index.committed, (Query.both (.inMailbox mailbox) query).selects entry = true →
      entry.document.kind = .message ∧ entry.document.mailbox = mailbox := by
    intro entry listed selected
    rw [Query.selects_both, Query.selects_inMailbox] at selected
    obtain ⟨⟨own, kept⟩, chosen⟩ := selected
    have expressed := Criterion.expresses_query? paired kept translated
    cases kind : entry.document.kind with
    | message => exact ⟨rfl, own⟩
    | flags => exact absurd chosen (expressed.on_flags entry kind)
  exact Snapshot.strict_uids (paired.nodup_uids contents)

/--
A search for a valid criterion gives the lowest numbers of exactly the messages of the mailbox that meet
the criterion, in strict order and as many as are allowed. A mailbox with a name that is not indexed has
no messages for it.
-/
theorem search_lowest_matches {index : Index} (mailbox : Mailbox) {criterion : Criterion}
    (paired : index.committed.Paired) (valid : criterion.validate = .ok ())
    (allowed : 1 ≤ index.config.maxResults) :
    ∃ uids : List Uid, uids.Pairwise (· < ·)
      ∧ (∀ uid, uid ∈ uids ↔ isKept mailbox.name.toList = true ∧ index.IsMatch mailbox criterion uid)
      ∧ index.search mailbox criterion = .ok (uids.take index.config.maxResults) := by
  obtain ⟨query, translated, found⟩ := index.search_eq mailbox valid
  refine ⟨index.committed.uids (.both (.inMailbox mailbox) query), strict_uids_query paired translated,
    mem_uids_query paired translated, ?_⟩
  rw [found, Nat.max_eq_left allowed]

/-- An index of one message without headers and text. -/
def ofOneMessage (flags : FlagsDocument) : Index :=
  .ofSnapshot .small Mime.readEvents
    [.ofDocument Config.small.analysis (.content ⟨flags.mailbox, flags.uid, 0, 0, .epoch, [], []⟩),
      .ofDocument Config.small.analysis (.flags flags)]

theorem search_lowest_matches_nor :
    ∃ uids : List Uid, uids.Pairwise (· < ·)
      ∧ (∀ uid, uid ∈ uids ↔ isKept "inbox".toList = true
        ∧ (ofOneMessage ⟨⟨"inbox"⟩, 3, .ofList [.system .seen]⟩).IsMatch ⟨"inbox"⟩
          (.nor [.flag (.system .seen) false, .uid [⟨5, 9⟩]]) uid)
      ∧ (ofOneMessage ⟨⟨"inbox"⟩, 3, .ofList [.system .seen]⟩).search ⟨"inbox"⟩
          (.nor [.flag (.system .seen) false, .uid [⟨5, 9⟩]]) = .ok (uids.take 100000) :=
  search_lowest_matches ⟨"inbox"⟩ (Snapshot.paired_message _ rfl rfl) rfl (by decide)

/-- A name of letters that is one byte longer than a term may be. -/
def overlongName : String :=
  String.ofList (List.replicate (maxTermBytes + 1) 'a')

theorem not_isKept_overlongName : ¬ isKept overlongName.toList = true := by
  have bytes : Text.byteSize (List.replicate (maxTermBytes + 1) 'a') = maxTermBytes + 1 := by
    rw [byteSize_of_single, List.length_replicate]
    intro letter listed
    rw [List.eq_of_mem_replicate listed]
    decide
  rw [isKept, overlongName, String.toList_ofList, bytes]
  simp

/-- An index of one message of a mailbox with that name. -/
def overlongIndex : Index :=
  ofOneMessage ⟨⟨overlongName⟩, 1, .empty⟩

/-- Without the bound on the name, a search would have to find the message of a mailbox that is not
indexed. -/
theorem search_misses_overlong_mailbox :
    overlongIndex.committed.Paired ∧ Criterion.all.validate = .ok ()
      ∧ 1 ≤ overlongIndex.config.maxResults
      ∧ ¬ ∃ uids : List Uid, uids.Pairwise (· < ·)
        ∧ (∀ uid, uid ∈ uids ↔ overlongIndex.IsMatch ⟨overlongName⟩ .all uid)
        ∧ overlongIndex.search ⟨overlongName⟩ .all
          = .ok (uids.take overlongIndex.config.maxResults) := by
  have paired : overlongIndex.committed.Paired := Snapshot.paired_message _ rfl rfl
  have valid : Criterion.all.validate = .ok () := rfl
  refine ⟨paired, valid, by decide, ?_⟩
  rintro ⟨uids, -, matched, answer⟩
  -- the message of the mailbox meets the criterion, so its number would have to be among the answers
  have listed : (1 : Uid) ∈ uids := by
    refine (matched 1).mpr ⟨⟨_, _, _, _⟩, ⟨List.mem_cons_self, List.mem_cons_of_mem _ List.mem_cons_self,
      rfl, rfl⟩, rfl, rfl, ?_⟩
    rw [Criterion.Meets]
    trivial
  obtain ⟨query, translated, found⟩ := overlongIndex.search_eq ⟨overlongName⟩ valid
  have none : overlongIndex.committed.uids (.both (.inMailbox ⟨overlongName⟩) query) = [] := by
    refine List.eq_nil_iff_forall_not_mem.mpr fun uid found => ?_
    exact not_isKept_overlongName ((mem_uids_query paired translated uid).mp found).1
  rw [found, none, List.take_nil] at answer
  have empty := (List.take_eq_nil_iff.mp (Except.ok.inj answer).symm).resolve_left (by decide)
  rw [empty] at listed
  simp at listed

end Index

end Letterbox
