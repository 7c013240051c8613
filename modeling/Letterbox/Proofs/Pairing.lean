import Letterbox.Proofs.Selection
import Letterbox.Proofs.UidList

/-!
# Paired documents

A message is kept as two documents that come and go together. This module counts the documents with a label
through each change of a snapshot, and shows that putting, re-flagging and removing messages keep the two
documents of each message side by side.
-/

namespace Letterbox

/-- The content of a message belongs to it. -/
theorem ContentDocument.own_of_ofMessage {decoder : Mime.Decoder} {message : Message}
    {content : ContentDocument} (decoded : ofMessage decoder message = .ok content) :
    content.mailbox = message.mailbox ∧ content.uid = message.uid := by
  unfold ofMessage at decoded
  split at decoded
  · obtain rfl := Except.ok.inj decoded
    exact ⟨rfl, rfl⟩
  · simp at decoded

namespace Index

/-- A document is put in the place of those with its label only. -/
theorem mem_replace {analysis : Analysis} {snapshot : Snapshot} {document : Document} {entry : Entry}
    (listed : entry ∈ snapshot) (apart : entry.label ≠ document.label) :
    entry ∈ replace analysis snapshot document := by
  refine List.mem_append_left _ (List.mem_filter.mpr ⟨listed, ?_⟩)
  rw [Bool.not_eq_true', ← Bool.not_eq_true]
  exact mt Query.label_of_selects_withKey apart

theorem mem_replace_self (analysis : Analysis) (snapshot : Snapshot) (document : Document) :
    Entry.ofDocument analysis document ∈ replace analysis snapshot document :=
  List.mem_append_right _ (List.mem_singleton.mpr rfl)

end Index

namespace Snapshot

/-- The labels of the documents of a snapshot. -/
def labels (snapshot : Snapshot) : List DocumentLabel :=
  snapshot.map Entry.label

/-- Every message has one content document and one flags document. -/
def Paired (snapshot : Snapshot) : Prop :=
  ∀ mailbox uid,
    (snapshot.labels.count ⟨.message, mailbox, uid⟩ = 1 ∧ snapshot.labels.count ⟨.flags, mailbox, uid⟩ = 1)
      ∨ (snapshot.labels.count ⟨.message, mailbox, uid⟩ = 0
        ∧ snapshot.labels.count ⟨.flags, mailbox, uid⟩ = 0)

/-- Every key is short enough to be indexed. -/
def Fits (snapshot : Snapshot) : Prop :=
  ∀ label ∈ snapshot.labels, label.Fits

/-- What every write keeps: messages have both documents, and these are found by their keys. -/
structure Sound (snapshot : Snapshot) : Prop where
  paired : snapshot.Paired
  fits : snapshot.Fits

theorem mem_labels {snapshot : Snapshot} {label : DocumentLabel} :
    label ∈ snapshot.labels ↔ ∃ entry ∈ snapshot, entry.label = label := by
  simp [labels]

theorem sound_nil : Sound [] := by
  refine ⟨fun _ _ => Or.inr ⟨rfl, rfl⟩, fun label h => ?_⟩
  simp [labels] at h

/-! ## What pairing gives -/

namespace Paired

variable {snapshot : Snapshot}

/-- No label occurs twice. -/
theorem nodup (paired : snapshot.Paired) : snapshot.labels.Nodup := by
  refine List.nodup_iff_count_le_one.mpr fun label => ?_
  obtain ⟨kind, mailbox, uid⟩ := label
  rcases paired mailbox uid with ⟨content, flags⟩ | ⟨content, flags⟩ <;> cases kind <;> omega

/-- Two entries with one label are one entry. -/
theorem entry_eq (paired : snapshot.Paired) {one other : Entry} (first : one ∈ snapshot)
    (second : other ∈ snapshot) (same : one.label = other.label) : one = other :=
  List.inj_on_of_nodup_map paired.nodup first second same

/-- A message has its content exactly if it has its flags. -/
theorem content_iff_flags (paired : snapshot.Paired) {mailbox : Mailbox} {uid : Uid} :
    (⟨.message, mailbox, uid⟩ : DocumentLabel) ∈ snapshot.labels
      ↔ (⟨.flags, mailbox, uid⟩ : DocumentLabel) ∈ snapshot.labels := by
  rw [← List.count_pos_iff, ← List.count_pos_iff]
  rcases paired mailbox uid with ⟨content, flags⟩ | ⟨content, flags⟩ <;> omega

/-- Both documents of each message are counted, so there are as many of the one kind as of the other. -/
theorem count_kinds (paired : snapshot.Paired) :
    (snapshot.labels.filter (·.kind = .message)).length
      = (snapshot.labels.filter (·.kind = .flags)).length := by
  have distinct : ((snapshot.labels.filter (·.kind = .message)).map
      fun label => (⟨.flags, label.mailbox, label.uid⟩ : DocumentLabel)).Nodup := by
    refine List.Nodup.map_on ?_ (paired.nodup.filter _)
    rintro ⟨kind, mailbox, uid⟩ first ⟨other, otherMailbox, otherUid⟩ second same
    simp only [List.mem_filter, decide_eq_true_eq] at first second
    simp only [DocumentLabel.mk.injEq] at same ⊢
    exact ⟨first.2.trans second.2.symm, same.2⟩
  have matched := (List.perm_ext_iff_of_nodup distinct (paired.nodup.filter (·.kind = .flags))).mpr
    (by
      rintro ⟨kind, mailbox, uid⟩
      simp only [List.mem_map, List.mem_filter, decide_eq_true_eq, DocumentLabel.mk.injEq]
      constructor
      · rintro ⟨⟨other, otherMailbox, otherUid⟩, ⟨listed, rfl⟩, rfl, rfl, rfl⟩
        exact ⟨paired.content_iff_flags.mp listed, rfl⟩
      · rintro ⟨listed, rfl⟩
        exact ⟨⟨.message, mailbox, uid⟩, ⟨paired.content_iff_flags.mpr listed, rfl⟩, rfl, rfl, rfl⟩)
  simpa using matched.length_eq

end Paired

theorem countOf_eq (snapshot : Snapshot) (kind : DocumentKind) :
    snapshot.countOf kind = (snapshot.labels.filter (·.kind = kind)).length := by
  rw [labels, List.filter_map, List.length_map, countOf, select]
  congr 1
  refine List.filter_congr fun entry _ => ?_
  rw [Bool.eq_iff_iff, Query.selects_ofKind]
  exact decide_eq_true_iff.symm

/-- The statistics of paired documents count every message twice, once for each kind. -/
theorem Paired.statistics_eq {snapshot : Snapshot} (paired : snapshot.Paired) :
    snapshot.statistics.messages = snapshot.statistics.flagsDocuments := by
  simp only [statistics, countOf_eq, paired.count_kinds]

/-! ## Changes of a snapshot -/

/-- The labels after a document was put in the place of those with its key and kind. -/
theorem labels_replace (analysis : Analysis) (snapshot : Snapshot) {document : Document}
    (fits : document.label.Fits) :
    labels (Index.replace analysis snapshot document)
      = snapshot.labels.filter (· ≠ document.label) ++ [document.label] := by
  simp only [labels, Index.replace, List.map_append, List.map_cons, List.map_nil, List.filter_map]
  congr 2
  refine List.filter_congr fun entry _ => ?_
  rw [Bool.eq_iff_iff, Bool.not_eq_true', ← Bool.not_eq_true, Query.selects_withKey fits]
  simp

/-- The documents of a mailbox with numbers in a range, if the mailbox is indexed. -/
theorem selects_rangeQuery {entry : Entry} (mailbox : Mailbox) (range : UidRange)
    (fits : entry.label.Fits) :
    (Index.rangeQuery mailbox range).selects entry = true
      ↔ entry.label.mailbox = mailbox ∧ range.contains entry.label.uid = true := by
  rw [Index.rangeQuery, Query.selects_both, Query.selects_inMailbox, Query.selects_inRange]
  constructor
  · rintro ⟨⟨own, -⟩, inside⟩
    exact ⟨own, inside⟩
  · rintro ⟨rfl, inside⟩
    exact ⟨⟨rfl, fits.mailbox⟩, inside⟩

/-- The labels after the messages of a mailbox with numbers in a range were removed. -/
theorem labels_remove {snapshot : Snapshot} (fits : snapshot.Fits) (mailbox : Mailbox) (range : UidRange) :
    labels (snapshot.filter fun entry => ! (Index.rangeQuery mailbox range).selects entry)
      = snapshot.labels.filter fun label =>
          ! (decide (label.mailbox = mailbox) && range.contains label.uid) := by
  simp only [labels, List.filter_map]
  congr 1
  refine List.filter_congr fun entry listed => ?_
  rw [Function.comp_apply, Bool.not_inj_iff, Bool.eq_iff_iff,
    selects_rangeQuery mailbox range (fits _ (mem_labels.mpr ⟨entry, listed, rfl⟩))]
  simp

theorem count_filter_labels (labels : List DocumentLabel) (keep : DocumentLabel → Bool)
    (label : DocumentLabel) :
    (labels.filter keep).count label = if keep label = true then labels.count label else 0 := by
  split
  · next kept => exact List.count_filter kept
  · next dropped =>
    refine List.count_eq_zero.mpr fun listed => dropped ?_
    exact (List.mem_filter.mp listed).2

/-- A replaced document occurs once; every other one as often as before. -/
theorem count_replace (analysis : Analysis) (snapshot : Snapshot) {document : Document}
    (fits : document.label.Fits) (label : DocumentLabel) :
    (labels (Index.replace analysis snapshot document)).count label
      = if label = document.label then 1 else snapshot.labels.count label := by
  rw [labels_replace analysis snapshot fits, List.count_append, count_filter_labels,
    List.count_singleton]
  by_cases same : label = document.label
  · simp [same]
  · simp [same, Ne.symm same]

theorem fits_replace {snapshot : Snapshot} (fits : snapshot.Fits) (analysis : Analysis)
    {document : Document} (own : document.label.Fits) :
    Fits (Index.replace analysis snapshot document) := by
  intro label listed
  rw [labels_replace analysis snapshot own, List.mem_append, List.mem_filter, List.mem_singleton]
    at listed
  rcases listed with ⟨listed, -⟩ | rfl
  · exact fits label listed
  · exact own

/-- Replacing both documents of a message keeps all messages paired. -/
theorem Sound.put {snapshot : Snapshot} (sound : snapshot.Sound) (analysis : Analysis)
    {content : ContentDocument} {flags : FlagsDocument} (mailbox : flags.mailbox = content.mailbox)
    (uid : flags.uid = content.uid) (fits : (Document.flags flags).label.Fits) :
    Sound (Index.replace analysis (Index.replace analysis snapshot (.content content)) (.flags flags)) := by
  have contentFits : (Document.content content).label.Fits := by
    have := DocumentLabel.Fits.content fits
    simpa [Document.label, Document.kind, Document.mailbox, Document.uid, mailbox, uid] using this
  refine ⟨fun other number => ?_, fits_replace (fits_replace sound.fits analysis contentFits) analysis fits⟩
  simp only [count_replace _ _ fits, count_replace _ _ contentFits, Document.label, Document.kind,
    Document.mailbox, Document.uid, DocumentLabel.mk.injEq, reduceCtorEq, false_and, true_and, if_false,
    mailbox, uid]
  split
  · exact Or.inl ⟨rfl, rfl⟩
  · exact sound.paired other number

/-- Replacing flags of messages that have some keeps all messages paired. -/
theorem Sound.reflag {snapshot : Snapshot} (sound : snapshot.Sound) (analysis : Analysis)
    (mailbox : Mailbox) (flags : Flags) (uids : List Uid)
    (present : ∀ uid ∈ uids, (⟨.flags, mailbox, uid⟩ : DocumentLabel) ∈ snapshot.labels) :
    Sound (uids.foldl
      (fun snapshot uid => Index.replace analysis snapshot (.flags ⟨mailbox, uid, flags⟩)) snapshot) := by
  induction uids generalizing snapshot with
  | nil => exact sound
  | cons uid rest ih =>
      have listed := present uid List.mem_cons_self
      have fits : (Document.flags ⟨mailbox, uid, flags⟩).label.Fits := sound.fits _ listed
      rw [List.foldl_cons]
      refine ih ⟨fun other number => ?_, fits_replace sound.fits analysis fits⟩ fun one later => ?_
      · simp only [count_replace _ _ fits, Document.label, Document.kind, Document.mailbox,
          Document.uid, DocumentLabel.mk.injEq, reduceCtorEq, false_and, true_and, if_false]
        split
        · next same =>
          -- the message had flags before, hence also its content
          obtain ⟨rfl, rfl⟩ := same
          have once := List.count_pos_iff.mpr listed
          rcases sound.paired other number with ⟨content, flags⟩ | ⟨content, flags⟩
          · exact Or.inl ⟨content, rfl⟩
          · omega
        · exact sound.paired other number
      · rw [labels_replace analysis snapshot fits, List.mem_append, List.mem_filter]
        by_cases same : (⟨.flags, mailbox, one⟩ : DocumentLabel)
            = (Document.flags ⟨mailbox, uid, flags⟩).label
        · exact Or.inr (List.mem_singleton.mpr same)
        · exact Or.inl ⟨present one (List.mem_cons_of_mem _ later), by simpa using same⟩

/-- Removing messages of a range keeps all messages paired. -/
theorem Sound.remove {snapshot : Snapshot} (sound : snapshot.Sound) (mailbox : Mailbox)
    (range : UidRange) :
    Sound (snapshot.filter fun entry => ! (Index.rangeQuery mailbox range).selects entry) := by
  refine ⟨fun other number => ?_, fun label listed => ?_⟩
  · simp only [labels_remove sound.fits, count_filter_labels]
    split
    · exact sound.paired other number
    · exact Or.inr ⟨rfl, rfl⟩
  · rw [labels_remove sound.fits, List.mem_filter] at listed
    exact sound.fits label listed.1

/-! ## What queries find among paired documents -/

variable {snapshot : Snapshot} {mailbox : Mailbox} {range : UidRange} {uid : Uid}

/-- The numbers of the contents of a mailbox. -/
theorem Sound.mem_uids_allMessages (sound : snapshot.Sound) :
    uid ∈ snapshot.uids (.both (.inMailbox mailbox) .allMessages)
      ↔ (⟨.message, mailbox, uid⟩ : DocumentLabel) ∈ snapshot.labels := by
  rw [mem_uids, mem_labels]
  simp only [Query.selects_both, Query.selects_inMailbox, Query.selects_allMessages, Entry.label_eq_iff]
  constructor
  · rintro ⟨entry, listed, ⟨⟨own, -⟩, content⟩, number⟩
    exact ⟨entry, listed, content, own, number⟩
  · rintro ⟨entry, listed, content, rfl, number⟩
    have kept := DocumentLabel.Fits.mailbox (sound.fits _ (mem_labels.mpr ⟨entry, listed, rfl⟩))
    exact ⟨entry, listed, ⟨⟨rfl, kept⟩, content⟩, number⟩

/-- The numbers of the flags that an update finds. -/
theorem Sound.mem_uids_flagsQuery (sound : snapshot.Sound) :
    uid ∈ snapshot.uids (Index.flagsQuery mailbox range)
      ↔ (⟨.flags, mailbox, uid⟩ : DocumentLabel) ∈ snapshot.labels ∧ range.contains uid = true := by
  rw [mem_uids, mem_labels]
  simp only [Index.flagsQuery, Query.selects_both, Query.selects_inMailbox, Query.selects_ofKind,
    Query.selects_inRange, Entry.label_eq_iff]
  constructor
  · rintro ⟨entry, listed, ⟨⟨⟨own, -⟩, flags⟩, inside⟩, rfl⟩
    exact ⟨⟨entry, listed, flags, own, rfl⟩, inside⟩
  · rintro ⟨⟨entry, listed, flags, rfl, rfl⟩, inside⟩
    have kept := DocumentLabel.Fits.mailbox (sound.fits _ (mem_labels.mpr ⟨entry, listed, rfl⟩))
    exact ⟨entry, listed, ⟨⟨⟨rfl, kept⟩, flags⟩, inside⟩, rfl⟩

end Snapshot

end Letterbox
