import Letterbox.Proofs.Pairing

/-!
# Ledgers

A ledger tells of each mailbox and number what message there is: its content and its flags. Sound documents
are the ledger of their messages, and putting, re-flagging and removing documents does to the ledger what
its names promise, and nothing else.
-/

namespace Letterbox

/-- A message as a ledger knows it. -/
structure HeldMessage where
  content : ContentDocument
  flags : Flags

/-- The two documents of a message. -/
def HeldMessage.documents (held : HeldMessage) : List Document :=
  [.content held.content, .flags ⟨held.content.mailbox, held.content.uid, held.flags⟩]

/-- The messages by mailbox and number. -/
abbrev Ledger := Mailbox → Uid → Option HeldMessage

namespace Ledger

/-- The ledger with a message entered, in the place of a former one. -/
def put (ledger : Ledger) (mailbox : Mailbox) (uid : Uid) (held : HeldMessage) : Ledger :=
  fun other number => if other = mailbox ∧ number = uid then some held else ledger other number

/-- The ledger with the flags of the messages of a mailbox with numbers in a range replaced. -/
def reflag (ledger : Ledger) (mailbox : Mailbox) (range : UidRange) (flags : Flags) : Ledger :=
  fun other number =>
    if other = mailbox ∧ range.contains number = true then
      (ledger other number).map fun held => { held with flags }
    else ledger other number

/-- The ledger without the messages of a mailbox with numbers in a range. -/
def remove (ledger : Ledger) (mailbox : Mailbox) (range : UidRange) : Ledger :=
  fun other number =>
    if other = mailbox ∧ range.contains number = true then none else ledger other number

/-- The numbers of the messages of a mailbox. -/
def uids (ledger : Ledger) (mailbox : Mailbox) : Set Uid :=
  fun uid => ∃ held, ledger mailbox uid = some held

/-- The numbers in a range of messages of a mailbox. -/
def uidsIn (ledger : Ledger) (mailbox : Mailbox) (range : UidRange) : Set Uid :=
  fun uid => uid ∈ ledger.uids mailbox ∧ range.contains uid = true

theorem mem_uidsIn {ledger : Ledger} {mailbox : Mailbox} {range : UidRange} {uid : Uid} :
    uid ∈ ledger.uidsIn mailbox range ↔ uid ∈ ledger.uids mailbox ∧ range.contains uid = true :=
  Iff.rfl

theorem not_contains_of_reversed {range : UidRange} (reversed : range.last < range.first) (uid : Uid) :
    ¬ range.contains uid = true := by
  intro inside
  obtain ⟨above, below⟩ := UidRange.contains_iff.mp inside
  exact UInt64.not_le.mpr reversed (UInt64.le_trans above below)

theorem uidsIn_of_reversed (ledger : Ledger) (mailbox : Mailbox) {range : UidRange}
    (reversed : range.last < range.first) : ledger.uidsIn mailbox range = ∅ :=
  Set.eq_empty_iff_forall_notMem.mpr fun uid inside =>
    not_contains_of_reversed reversed uid (mem_uidsIn.mp inside).2

theorem remove_of_reversed (ledger : Ledger) (mailbox : Mailbox) {range : UidRange}
    (reversed : range.last < range.first) : ledger.remove mailbox range = ledger := by
  funext other number
  exact if_neg fun inside => not_contains_of_reversed reversed number inside.2

end Ledger

namespace Snapshot

/-! ## Documents -/

/-- The documents of a snapshot. -/
def documents (snapshot : Snapshot) : List Document :=
  snapshot.map Entry.document

variable {snapshot : Snapshot}

theorem labels_eq (snapshot : Snapshot) : snapshot.labels = snapshot.documents.map Document.label := by
  simp only [labels, documents, List.map_map]
  rfl

theorem label_mem_labels {document : Document} (listed : document ∈ snapshot.documents) :
    document.label ∈ snapshot.labels := by
  rw [labels_eq]
  exact List.mem_map_of_mem listed

theorem exists_document {label : DocumentLabel} (listed : label ∈ snapshot.labels) :
    ∃ document ∈ snapshot.documents, document.label = label := by
  rw [labels_eq] at listed
  exact List.mem_map.mp listed

/-- Two documents with one label are one document. -/
theorem Paired.document_eq (paired : snapshot.Paired) {one other : Document}
    (first : one ∈ snapshot.documents) (second : other ∈ snapshot.documents)
    (same : one.label = other.label) : one = other := by
  have distinct := paired.nodup
  rw [labels_eq] at distinct
  exact List.inj_on_of_nodup_map distinct first second same

theorem Paired.nodup_documents (paired : snapshot.Paired) : snapshot.documents.Nodup := by
  have distinct := paired.nodup
  rw [labels_eq] at distinct
  exact distinct.of_map _

/-- A document is found by its label. -/
theorem Paired.find?_label (paired : snapshot.Paired) {document : Document}
    (listed : document ∈ snapshot.documents) :
    snapshot.documents.find? (fun other => other.label = document.label) = some document := by
  cases found : snapshot.documents.find? fun other => other.label = document.label with
  | none => exact absurd (List.find?_eq_none.mp found document listed) (by simp)
  | some other =>
      have same : other.label = document.label := by simpa using List.find?_some found
      rw [paired.document_eq (List.mem_of_find?_eq_some found) listed same]

/-- The documents after one was put in the place of those with its key and kind. -/
theorem mem_documents_replace (analysis : Analysis) (snapshot : Snapshot) {document other : Document}
    (fits : document.label.Fits) :
    other ∈ documents (Index.replace analysis snapshot document)
      ↔ (other ∈ snapshot.documents ∧ other.label ≠ document.label) ∨ other = document := by
  simp only [documents, Index.replace, List.map_append, List.mem_append, List.mem_map, List.mem_filter,
    List.mem_singleton, Bool.not_eq_true', ← Bool.not_eq_true, Query.selects_withKey fits]
  constructor
  · rintro (⟨entry, ⟨listed, apart⟩, rfl⟩ | ⟨entry, rfl, rfl⟩)
    · exact Or.inl ⟨⟨entry, listed, rfl⟩, apart⟩
    · exact Or.inr rfl
  · rintro (⟨⟨entry, listed, rfl⟩, apart⟩ | rfl)
    · exact Or.inl ⟨entry, ⟨listed, apart⟩, rfl⟩
    · exact Or.inr ⟨_, rfl, rfl⟩

/-- The documents after the flags of some messages were replaced. -/
theorem mem_documents_reflag (analysis : Analysis) {mailbox : Mailbox} {flags : Flags} {uids : List Uid}
    (fits : ∀ uid ∈ uids, DocumentLabel.Fits ⟨.flags, mailbox, uid⟩) {other : Document} :
    other ∈ documents (uids.foldl
        (fun snapshot uid => Index.replace analysis snapshot (.flags ⟨mailbox, uid, flags⟩)) snapshot)
      ↔ (other ∈ snapshot.documents ∧ ∀ uid ∈ uids, other.label ≠ ⟨.flags, mailbox, uid⟩)
        ∨ ∃ uid ∈ uids, other = .flags ⟨mailbox, uid, flags⟩ := by
  induction uids generalizing snapshot with
  | nil => simp
  | cons uid rest ih =>
      have own : (Document.flags ⟨mailbox, uid, flags⟩).label.Fits := fits uid List.mem_cons_self
      rw [List.foldl_cons, ih fun one later => fits one (List.mem_cons_of_mem _ later),
        mem_documents_replace analysis snapshot own]
      constructor
      · rintro (⟨⟨listed, apart⟩ | rfl, others⟩ | ⟨one, later, rfl⟩)
        · exact Or.inl ⟨listed, List.forall_mem_cons.mpr ⟨apart, others⟩⟩
        · exact Or.inr ⟨uid, List.mem_cons_self, rfl⟩
        · exact Or.inr ⟨one, List.mem_cons_of_mem _ later, rfl⟩
      · rintro (⟨listed, apart⟩ | ⟨one, here, rfl⟩)
        · obtain ⟨first, others⟩ := List.forall_mem_cons.mp apart
          exact Or.inl ⟨Or.inl ⟨listed, first⟩, others⟩
        · by_cases later : one ∈ rest
          · exact Or.inr ⟨one, later, rfl⟩
          · obtain rfl := (List.mem_cons.mp here).resolve_right later
            refine Or.inl ⟨Or.inr rfl, fun other present same => later ?_⟩
            have number : one = other := (DocumentLabel.mk.inj same).2.2
            exact number ▸ present

/-- The documents after the messages of a mailbox with numbers in a range were removed. -/
theorem mem_documents_remove (fits : snapshot.Fits) (mailbox : Mailbox) (range : UidRange)
    {document : Document} :
    document ∈ documents (snapshot.filter fun entry => ! (Index.rangeQuery mailbox range).selects entry)
      ↔ document ∈ snapshot.documents
        ∧ ¬ (document.mailbox = mailbox ∧ range.contains document.uid = true) := by
  have selected : ∀ entry ∈ snapshot, (Index.rangeQuery mailbox range).selects entry = true
      ↔ entry.document.mailbox = mailbox ∧ range.contains entry.document.uid = true :=
    fun entry listed => selects_rangeQuery mailbox range (fits _ (mem_labels.mpr ⟨entry, listed, rfl⟩))
  simp only [documents, List.mem_map, List.mem_filter, Bool.not_eq_true', ← Bool.not_eq_true]
  constructor
  · rintro ⟨entry, ⟨listed, apart⟩, rfl⟩
    rw [selected entry listed] at apart
    exact ⟨⟨entry, listed, rfl⟩, apart⟩
  · rintro ⟨⟨entry, listed, rfl⟩, apart⟩
    rw [← selected entry listed] at apart
    exact ⟨entry, ⟨listed, apart⟩, rfl⟩

/-! ## The ledger of a snapshot -/

/-- The messages whose documents a snapshot has. -/
def ledger (snapshot : Snapshot) : Ledger := fun mailbox uid =>
  match snapshot.documents.find? (fun document => document.label = ⟨.message, mailbox, uid⟩),
    snapshot.documents.find? (fun document => document.label = ⟨.flags, mailbox, uid⟩) with
  | some (.content content), some (.flags flags) => some ⟨content, flags.flags⟩
  | _, _ => none

/-- A message is in the ledger if both of its documents are there. -/
theorem Paired.ledger_eq_some (paired : snapshot.Paired) {mailbox : Mailbox} {uid : Uid}
    {held : HeldMessage} :
    snapshot.ledger mailbox uid = some held
      ↔ (held.content.mailbox = mailbox ∧ held.content.uid = uid)
        ∧ .content held.content ∈ snapshot.documents
        ∧ .flags ⟨mailbox, uid, held.flags⟩ ∈ snapshot.documents := by
  constructor
  · intro found
    unfold ledger at found
    split at found
    · next content flags first second =>
      obtain rfl := Option.some.inj found
      have own : (Document.content content).label = ⟨.message, mailbox, uid⟩ := by
        simpa using List.find?_some first
      have other : (Document.flags flags).label = ⟨.flags, mailbox, uid⟩ := by
        simpa using List.find?_some second
      obtain ⟨-, rfl, rfl⟩ := DocumentLabel.mk.inj other
      exact ⟨(DocumentLabel.mk.inj own).2, List.mem_of_find?_eq_some first,
        List.mem_of_find?_eq_some second⟩
    · simp at found
  · obtain ⟨content, flags⟩ := held
    rintro ⟨⟨rfl, rfl⟩, first, second⟩
    have one : snapshot.documents.find? (fun document =>
        document.label = ⟨.message, content.mailbox, content.uid⟩) = some (.content content) :=
      paired.find?_label first
    have other : snapshot.documents.find? (fun document =>
        document.label = ⟨.flags, content.mailbox, content.uid⟩)
          = some (.flags ⟨content.mailbox, content.uid, flags⟩) :=
      paired.find?_label second
    unfold ledger
    rw [one, other]

/-- The numbers in the ledger are those of the flags documents. -/
theorem Paired.mem_ledger_uids (paired : snapshot.Paired) {mailbox : Mailbox} {uid : Uid} :
    uid ∈ snapshot.ledger.uids mailbox
      ↔ (⟨.flags, mailbox, uid⟩ : DocumentLabel) ∈ snapshot.labels := by
  constructor
  · rintro ⟨held, found⟩
    exact label_mem_labels (paired.ledger_eq_some.mp found).2.2
  · intro listed
    obtain ⟨document, present, label⟩ := exists_document listed
    obtain ⟨other, found, name⟩ := exists_document (paired.content_iff_flags.mpr listed)
    cases document with
    | content content => simp [Document.label, Document.kind] at label
    | flags flags =>
        cases other with
        | flags flags => simp [Document.label, Document.kind] at name
        | content content =>
            obtain ⟨-, rfl, rfl⟩ := DocumentLabel.mk.inj label
            exact ⟨⟨content, flags.flags⟩,
              paired.ledger_eq_some.mpr ⟨(DocumentLabel.mk.inj name).2, found, present⟩⟩

/-- The documents are those of the messages in the ledger. -/
theorem Paired.mem_documents (paired : snapshot.Paired) {document : Document} :
    document ∈ snapshot.documents
      ↔ ∃ mailbox uid held, snapshot.ledger mailbox uid = some held ∧ document ∈ held.documents := by
  constructor
  · intro listed
    have flags : (⟨.flags, document.mailbox, document.uid⟩ : DocumentLabel) ∈ snapshot.labels := by
      have label := label_mem_labels listed
      cases document with
      | content content => exact paired.content_iff_flags.mp label
      | flags flags => exact label
    obtain ⟨held, found⟩ := paired.mem_ledger_uids.mpr flags
    obtain ⟨⟨mailbox, uid⟩, first, second⟩ := paired.ledger_eq_some.mp found
    refine ⟨_, _, held, found, ?_⟩
    cases document with
    | content content =>
        have label : (Document.content content).label = (Document.content held.content).label :=
          congrArg₂ (DocumentLabel.mk .message) mailbox.symm uid.symm
        rw [paired.document_eq listed first label]
        exact List.mem_cons_self
    | flags flags =>
        rw [paired.document_eq listed second rfl, ← mailbox, ← uid]
        exact List.mem_cons_of_mem _ List.mem_cons_self
  · rintro ⟨mailbox, uid, held, found, listed⟩
    obtain ⟨⟨rfl, rfl⟩, first, second⟩ := paired.ledger_eq_some.mp found
    rcases List.mem_cons.mp listed with rfl | listed
    · exact first
    · obtain rfl := List.mem_singleton.mp listed
      exact second

/-! ## Changes of the ledger -/

/-- The documents after both of a message were put in the places of former ones. -/
theorem mem_documents_put (analysis : Analysis) (snapshot : Snapshot) {content : ContentDocument}
    {flags : Flags} (fits : DocumentLabel.Fits ⟨.flags, content.mailbox, content.uid⟩) {other : Document} :
    other ∈ documents (Index.replace analysis (Index.replace analysis snapshot (.content content))
        (.flags ⟨content.mailbox, content.uid, flags⟩))
      ↔ (other ∈ snapshot.documents ∧ ¬ (other.mailbox = content.mailbox ∧ other.uid = content.uid))
        ∨ other = .content content ∨ other = .flags ⟨content.mailbox, content.uid, flags⟩ := by
  have flagsFits : (Document.flags ⟨content.mailbox, content.uid, flags⟩).label.Fits := fits
  have contentFits : (Document.content content).label.Fits := DocumentLabel.Fits.content fits
  rw [mem_documents_replace _ _ flagsFits, mem_documents_replace _ _ contentFits]
  cases other with
  | content one => simp [Document.label, Document.kind, Document.mailbox, Document.uid]
  | flags one => simp [Document.label, Document.kind, Document.mailbox, Document.uid]

/-- Putting both documents of a message enters it. -/
theorem Sound.ledger_put (sound : snapshot.Sound) (analysis : Analysis) {content : ContentDocument}
    {flags : FlagsDocument} (mailbox : flags.mailbox = content.mailbox) (uid : flags.uid = content.uid)
    (fits : (Document.flags flags).label.Fits) :
    ledger (Index.replace analysis (Index.replace analysis snapshot (.content content)) (.flags flags))
      = snapshot.ledger.put content.mailbox content.uid ⟨content, flags.flags⟩ := by
  have after := (sound.put analysis mailbox uid fits).paired
  obtain ⟨place, number, set⟩ := flags
  obtain rfl : place = content.mailbox := mailbox
  obtain rfl : number = content.uid := uid
  have listed := @mem_documents_put analysis snapshot content set fits
  funext other number
  rw [Ledger.put]
  by_cases same : other = content.mailbox ∧ number = content.uid
  · obtain ⟨rfl, rfl⟩ := same
    rw [if_pos ⟨rfl, rfl⟩, after.ledger_eq_some]
    exact ⟨⟨rfl, rfl⟩, listed.mpr (Or.inr (Or.inl rfl)), listed.mpr (Or.inr (Or.inr rfl))⟩
  · -- both documents of another message are those of before
    have elsewhere : ∀ document : Document, document.mailbox = other → document.uid = number →
        (document ∈ documents (Index.replace analysis (Index.replace analysis snapshot (.content content))
            (.flags ⟨content.mailbox, content.uid, set⟩))
          ↔ document ∈ snapshot.documents) := by
      rintro document rfl rfl
      rw [listed]
      constructor
      · rintro (⟨former, -⟩ | rfl | rfl)
        · exact former
        · exact absurd ⟨rfl, rfl⟩ same
        · exact absurd ⟨rfl, rfl⟩ same
      · exact fun former => Or.inl ⟨former, same⟩
    refine Option.ext fun held => ?_
    rw [if_neg same, after.ledger_eq_some, sound.paired.ledger_eq_some]
    refine and_congr_right fun own => ?_
    rw [elsewhere (.content held.content) own.1 own.2,
      elsewhere (.flags ⟨other, number, held.flags⟩) rfl rfl]

section Reflag

variable (analysis : Analysis) {mailbox : Mailbox} {flags : Flags} {uids : List Uid}
  (fits : ∀ uid ∈ uids, DocumentLabel.Fits ⟨.flags, mailbox, uid⟩)

include fits

/-- New flags leave the contents as they are. -/
theorem mem_contents_reflag {content : ContentDocument} :
    .content content ∈ documents (uids.foldl
        (fun snapshot uid => Index.replace analysis snapshot (.flags ⟨mailbox, uid, flags⟩)) snapshot)
      ↔ .content content ∈ snapshot.documents := by
  rw [mem_documents_reflag analysis fits]
  simp [Document.label, Document.kind]

/-- The flags of the listed messages are the new ones; all others are the former ones. -/
theorem mem_flags_reflag {held : FlagsDocument} :
    .flags held ∈ documents (uids.foldl
        (fun snapshot uid => Index.replace analysis snapshot (.flags ⟨mailbox, uid, flags⟩)) snapshot)
      ↔ if held.mailbox = mailbox ∧ held.uid ∈ uids then held.flags = flags
        else .flags held ∈ snapshot.documents := by
  obtain ⟨other, number, set⟩ := held
  rw [mem_documents_reflag analysis fits]
  split
  · next reached =>
    obtain ⟨rfl, listed⟩ := reached
    constructor
    · rintro (⟨-, apart⟩ | ⟨uid, -, same⟩)
      · exact absurd rfl (apart number listed)
      · exact (FlagsDocument.mk.inj (Document.flags.inj same)).2.2
    · rintro rfl
      exact Or.inr ⟨number, listed, rfl⟩
  · next missed =>
    constructor
    · rintro (⟨former, -⟩ | ⟨uid, listed, same⟩)
      · exact former
      · obtain ⟨rfl, rfl, -⟩ := FlagsDocument.mk.inj (Document.flags.inj same)
        exact absurd ⟨rfl, listed⟩ missed
    · intro former
      refine Or.inl ⟨former, fun uid listed same => missed ?_⟩
      obtain ⟨-, rfl, rfl⟩ := DocumentLabel.mk.inj same
      exact ⟨rfl, listed⟩

end Reflag

/-- Replacing the flags of all messages in a range replaces them in the ledger. -/
theorem Sound.ledger_reflag (sound : snapshot.Sound) (analysis : Analysis) {mailbox : Mailbox}
    {range : UidRange} {flags : Flags} {uids : List Uid}
    (found : ∀ uid, uid ∈ uids ↔ uid ∈ snapshot.ledger.uidsIn mailbox range) :
    ledger (uids.foldl
        (fun snapshot uid => Index.replace analysis snapshot (.flags ⟨mailbox, uid, flags⟩)) snapshot)
      = snapshot.ledger.reflag mailbox range flags := by
  have present : ∀ uid ∈ uids, (⟨.flags, mailbox, uid⟩ : DocumentLabel) ∈ snapshot.labels :=
    fun uid listed => sound.paired.mem_ledger_uids.mp ((found uid).mp listed).1
  have fits : ∀ uid ∈ uids, DocumentLabel.Fits ⟨.flags, mailbox, uid⟩ :=
    fun uid listed => sound.fits _ (present uid listed)
  have after := (sound.reflag analysis mailbox flags uids present).paired
  funext other number
  by_cases reached : other = mailbox ∧ number ∈ uids
  · obtain ⟨rfl, listed⟩ := reached
    obtain ⟨⟨former, entry⟩, inside⟩ := (found number).mp listed
    obtain ⟨own, content, -⟩ := sound.paired.ledger_eq_some.mp entry
    rw [Ledger.reflag, if_pos ⟨rfl, inside⟩, entry, Option.map_some, after.ledger_eq_some,
      mem_contents_reflag analysis fits, mem_flags_reflag analysis fits, if_pos ⟨rfl, listed⟩]
    exact ⟨own, content, rfl⟩
  · -- a message that is not listed is out of range, or there is none
    have same : snapshot.ledger.reflag mailbox range flags other number
        = snapshot.ledger other number := by
      unfold Ledger.reflag
      split
      · next inside =>
        obtain ⟨rfl, inside⟩ := inside
        cases entry : snapshot.ledger other number with
        | none => rfl
        | some held => exact absurd ⟨rfl, (found number).mpr ⟨⟨held, entry⟩, inside⟩⟩ reached
      · rfl
    refine Option.ext fun held => ?_
    rw [same, after.ledger_eq_some, sound.paired.ledger_eq_some, mem_contents_reflag analysis fits,
      mem_flags_reflag analysis fits, if_neg reached]

/-- Removing the documents of a range removes its messages. -/
theorem Sound.ledger_remove (sound : snapshot.Sound) (mailbox : Mailbox) (range : UidRange) :
    ledger (snapshot.filter fun entry => ! (Index.rangeQuery mailbox range).selects entry)
      = snapshot.ledger.remove mailbox range := by
  have after := (sound.remove mailbox range).paired
  funext other number
  refine Option.ext fun held => ?_
  rw [after.ledger_eq_some, mem_documents_remove sound.fits, mem_documents_remove sound.fits,
    Ledger.remove]
  by_cases inside : other = mailbox ∧ range.contains number = true
  · rw [if_pos inside]
    constructor
    · rintro ⟨-, -, -, outside⟩
      exact absurd inside outside
    · simp
  · rw [if_neg inside, sound.paired.ledger_eq_some]
    constructor
    · rintro ⟨own, ⟨first, -⟩, second, -⟩
      exact ⟨own, first, second⟩
    · rintro ⟨⟨rfl, rfl⟩, first, second⟩
      exact ⟨⟨rfl, rfl⟩, ⟨first, inside⟩, second, inside⟩

end Snapshot

end Letterbox
