import Letterbox.Proofs.Pairing
import Letterbox.Proofs.Traffic

/-!
# Documents found by their keys

A write finds the document that it replaces by a key and a kind. Main statement: whatever the callers of an index
do, at each moment a key and a kind are those of one document at most, and putting a document in the place of that
one leaves all others as they are. The invariant is about documents whose keys are indexed; of those with longer
keys there may be many, but no query for a key finds them.
-/

namespace Letterbox

/-! ## One document at most -/

/-- A key and a kind find the documents with the one label that has both, if its key is indexed. -/
theorem Query.selects_withKey_iff {entry : Entry} {key : String} {kind : DocumentKind} :
    (withKey key kind).selects entry = true
      ↔ entry.label.key = key ∧ entry.label.kind = kind ∧ entry.label.Fits := by
  have own : entry.label.key = entry.document.key := entry.document.key_label
  rw [withKey, selects_both, selects_ofKind,
    selects_term_of_values entry.document.values_id (fun _ _ => rfl), String.toList_inj,
    DocumentLabel.Fits, own]
  constructor
  · rintro ⟨⟨rfl, kept⟩, rfl⟩
    exact ⟨rfl, rfl, kept⟩
  · rintro ⟨rfl, rfl, kept⟩
    exact ⟨⟨rfl, kept⟩, rfl⟩

/-- The documents with other labels are left as they are, in their order. -/
theorem Index.filter_replace (analysis : Analysis) (snapshot : Snapshot) (document : Document) :
    (replace analysis snapshot document).filter (·.label ≠ document.label)
      = snapshot.filter (·.label ≠ document.label) := by
  have placed : [Entry.ofDocument analysis document].filter (·.label ≠ document.label) = [] := by
    simp [Entry.label, Entry.ofDocument]
  rw [replace, List.filter_append, placed, List.append_nil, List.filter_filter]
  refine List.filter_congr fun entry _ => ?_
  by_cases same : entry.label = document.label
  · simp [same]
  · have missed : (Query.withKey document.key document.kind).selects entry = false := by
      rw [← Bool.not_eq_true]
      exact mt Query.label_of_selects_withKey same
    simp [missed]

namespace Snapshot

/-- No two documents have the same label, unless its key is too long to be indexed. -/
def Distinct (snapshot : Snapshot) : Prop :=
  ∀ label : DocumentLabel, label.Fits → snapshot.labels.count label ≤ 1

theorem distinct_nil : Distinct [] := by
  intro label _
  simp [labels]

variable {snapshot : Snapshot}

theorem Distinct.filter (distinct : snapshot.Distinct) (keep : Entry → Bool) :
    Distinct (snapshot.filter keep) := by
  intro label fits
  have fewer := (List.filter_sublist (p := keep) (l := snapshot)).map Entry.label
  exact (fewer.count_le label).trans (distinct label fits)

/-- What is put in a place was removed from there before. -/
theorem Distinct.replace (distinct : snapshot.Distinct) (analysis : Analysis) (document : Document) :
    Distinct (Index.replace analysis snapshot document) := by
  intro label fits
  by_cases same : label = document.label
  · subst same
    rw [count_replace analysis snapshot fits, if_pos rfl]
  · -- the key of the document itself may be too long, and then nothing is removed
    have others : (labels [Entry.ofDocument analysis document]).count label = 0 := by
      refine List.count_eq_zero.mpr fun listed => same ?_
      obtain ⟨entry, placed, rfl⟩ := mem_labels.mp listed
      obtain rfl := List.mem_singleton.mp placed
      rfl
    have kept := distinct.filter (fun entry => ! (Query.withKey document.key document.kind).selects entry) label fits
    rw [Index.replace, labels, List.map_append, List.count_append]
    simp only [labels] at others kept
    omega

/-- All that a key and a kind find has one label, which no two documents have. -/
theorem Distinct.length_select_withKey_le (distinct : snapshot.Distinct) (key : String) (kind : DocumentKind) :
    (snapshot.select (.withKey key kind)).length ≤ 1 := by
  cases found : snapshot.select (.withKey key kind) with
  | nil => simp
  | cons first rest =>
      have member : first ∈ snapshot.select (.withKey key kind) := by
        rw [found]
        exact List.mem_cons_self
      obtain ⟨rfl, rfl, fits⟩ := Query.selects_withKey_iff.mp (List.mem_filter.mp member).2
      refine le_trans ?_ (distinct first.label fits)
      rw [← found, select, ← List.countP_eq_length_filter, List.count, labels, List.countP_map]
      refine List.countP_mono_left fun entry _ selected => ?_
      obtain ⟨key, kind, -⟩ := Query.selects_withKey_iff.mp selected
      exact beq_iff_eq.mpr ((DocumentLabel.eq_iff_key _ _).mpr ⟨key, kind⟩)

end Snapshot

/-! ## What lasts -/

/-- A property holds of an index at each moment of a script, the first and the last included. -/
def Script.Throughout (holds : Index → Prop) (index : Index) : Script → Prop
  | done => holds index
  | act action rest => holds index ∧ rest.Throughout holds (action.perform index)
  | lookUp query rest => holds index ∧ (rest (index.committed.uids query)).Throughout holds index

theorem Script.Throughout.first {holds : Index → Prop} {index : Index} {script : Script}
    (throughout : script.Throughout holds index) : holds index := by
  cases script with
  | done => exact throughout
  | act action rest => exact throughout.1
  | lookUp query rest => exact throughout.1

/-- A new index has a property, no job breaks it at any moment, and no restart does. -/
structure Index.IsLasting (holds : Index → Prop) : Prop where
  opened : ∀ config decoder, holds (.ofSnapshot config decoder [])
  reopened : ∀ {index}, holds index → ∀ config decoder, holds (.ofSnapshot config decoder index.committed)
  kept : ∀ {index}, holds index → ∀ job : Job, (job.script index).Throughout holds index

namespace Traffic

variable {holds : Index → Prop} {traffic : Traffic}

/-- If the lock is free the index has a property, and if not it has it until the lock is given back. -/
structure Throughout (holds : Index → Prop) (traffic : Traffic) : Prop where
  free : traffic.holder = none → holds traffic.index
  held : ∀ holder, traffic.holder = some holder → holder.script.Throughout holds traffic.index

theorem Throughout.now (throughout : traffic.Throughout holds) : holds traffic.index := by
  cases holder : traffic.holder with
  | none => exact throughout.free holder
  | some held => exact (throughout.held held holder).first

theorem throughout_of_free {index : Index} (found : holds index) (tasks : List Task) :
    Throughout holds ⟨index, tasks, none⟩ :=
  ⟨fun _ => found, fun _ => nofun⟩

theorem throughout_of_held {index : Index} {script : Script} (throughout : script.Throughout holds index)
    (tasks : List Task) (next : Task) : Throughout holds ⟨index, tasks, some ⟨script, next⟩⟩ := by
  refine ⟨nofun, fun holder held => ?_⟩
  obtain rfl := Option.some.inj held
  exact throughout

/-- Nothing that happens breaks a lasting property. -/
theorem Throughout.step (lasting : Index.IsLasting holds) (throughout : traffic.Throughout holds) (event : Event) :
    (traffic.step event).Throughout holds := by
  cases event with
  | issue call => exact ⟨throughout.free, throughout.held⟩
  | advance place => exact ⟨throughout.free, throughout.held⟩
  | acquire place =>
      rw [Traffic.step]
      split
      · next job next holder waiting =>
        exact throughout_of_held (lasting.kept (throughout.free holder) job) _ next
      · exact throughout
  | act =>
      rw [Traffic.step]
      split
      · exact throughout
      · next next holder => exact throughout_of_free (throughout.held _ holder) _
      · next action rest next holder => exact throughout_of_held (throughout.held _ holder).2 _ next
      · next query rest next holder => exact throughout_of_held (throughout.held _ holder).2 _ next
  | tick =>
      rw [Traffic.step]
      split
      · exact throughout
      · exact ⟨throughout.free, throughout.held⟩
  | restart config decoder => exact throughout_of_free (lasting.reopened throughout.now config decoder) []

/-- A lasting property holds of every index that calls lead to, between any two effects. -/
theorem holds_run (lasting : Index.IsLasting holds) (config : Config) (decoder : Mime.Decoder)
    (events : List Event) : holds ((start config decoder).run events).index := by
  have kept : ∀ traffic : Traffic, traffic.Throughout holds → (traffic.run events).Throughout holds := by
    induction events with
    | nil => exact fun _ throughout => throughout
    | cons event rest ih => exact fun traffic throughout => ih _ (throughout.step lasting event)
  exact (kept _ (throughout_of_free (lasting.opened config decoder) [])).now

end Traffic

/-! ## Distinct documents last -/

/-- No two documents have the same label, among those that searches see and among those that are written. -/
structure Index.Distinct (index : Index) : Prop where
  committed : index.committed.Distinct
  written : index.written.Distinct

namespace Index.Distinct

variable {index : Index}

theorem commitPending (distinct : index.Distinct) : index.commitPending.Distinct := by
  unfold Index.commitPending
  split
  · exact ⟨distinct.written, distinct.written⟩
  · exact distinct

theorem finish (distinct : index.Distinct) : Script.finish.Throughout Index.Distinct index := by
  refine ⟨distinct, ?_⟩
  rw [Action.perform, Index.afterWrite]
  split
  · exact ⟨distinct.written, distinct.written⟩
  · exact ⟨distinct.committed, distinct.written⟩

theorem remove (distinct : index.Distinct) (query : Query) : ((Action.remove query).perform index).Distinct :=
  ⟨distinct.committed, distinct.written.filter _⟩

/-- An insertion alone could repeat a document, but it comes behind the removal of what it replaces. -/
theorem replaceAll (distinct : index.Distinct) (documents : List Document) :
    (Script.replaceAll .finish documents).Throughout Index.Distinct index := by
  induction documents generalizing index with
  | nil => exact distinct.finish
  | cons document others ih =>
      exact ⟨distinct, distinct.remove _, ih ⟨distinct.committed, distinct.written.replace index.analysis document⟩⟩

theorem script (distinct : index.Distinct) (job : Job) : (job.script index).Throughout Index.Distinct index := by
  unfold Job.script
  split
  · cases job with
    | put documents => exact distinct.replaceAll _
    | update mailbox range flags =>
        exact ⟨distinct, distinct.commitPending, distinct.commitPending.replaceAll _⟩
    | delete mailbox range => exact ⟨distinct, (distinct.remove _).finish⟩
    | commit => exact ⟨distinct, distinct.commitPending⟩
    | close =>
        have ready := distinct.commitPending
        exact ⟨distinct, ready, ready.committed, ready.written⟩
  · exact distinct

theorem isLasting : Index.IsLasting Index.Distinct where
  opened _ _ := ⟨Snapshot.distinct_nil, Snapshot.distinct_nil⟩
  reopened distinct _ _ := ⟨distinct.committed, distinct.committed⟩
  kept distinct job := distinct.script job

end Index.Distinct

/-! ## A key and a kind name one document -/

/-- Every key of flags is also that of a content, in another mailbox. -/
theorem contentKey_eq_flagsKey (mailbox : Mailbox) (uid : Uid) :
    contentKey ⟨DocumentKind.flags.name ++ "-" ++ mailbox.name⟩ uid = flagsKey mailbox uid := by
  simp only [contentKey, flagsKey, String.append_assoc]

/--
The key of a document names its message among the documents of its kind. So a document takes the place of none with
another label, be it one of the other kind with the same key, and a key and a kind find one document at most, of what
is seen and of what is written, whatever the callers of an index do and also while a write goes on.
-/
theorem Traffic.withKey_finds_one :
    (∀ mailbox other uid number, contentKey mailbox uid = contentKey other number ↔ mailbox = other ∧ uid = number)
      ∧ (∀ mailbox other uid number, flagsKey mailbox uid = flagsKey other number ↔ mailbox = other ∧ uid = number)
      ∧ (∀ analysis (snapshot : Snapshot) (document : Document),
        (Index.replace analysis snapshot document).filter (·.label ≠ document.label)
          = snapshot.filter (·.label ≠ document.label))
      ∧ ∀ config decoder events key kind,
        (((start config decoder).run events).index.committed.select (.withKey key kind)).length ≤ 1
          ∧ (((start config decoder).run events).index.written.select (.withKey key kind)).length ≤ 1 := by
  refine ⟨fun _ _ _ _ => contentKey_inj, fun _ _ _ _ => flagsKey_inj, Index.filter_replace, ?_⟩
  intro config decoder events key kind
  have distinct := holds_run Index.Distinct.isLasting config decoder events
  exact ⟨distinct.committed.length_select_withKey_le key kind, distinct.written.length_select_withKey_le key kind⟩

end Letterbox
