import Letterbox.Proofs.Calls
import Letterbox.Proofs.Pairing
import Letterbox.Proofs.Traffic

/-!
# Pairing under traffic

Main statement: whatever the callers of an index do and in whichever order, at each moment every message
that searches see has one content document and one flags document. The invariant says of the holder of the
lock that all it will make visible is sound and that it will leave the index settled.
-/

namespace Letterbox

/-- No write goes on: all messages are paired, and what searches see lacks only what is pending. -/
structure Index.Settled (index : Index) : Prop where
  committed : index.committed.Sound
  written : index.written.Sound
  clean : index.isDirty = false → index.committed = index.written

namespace Index

variable {index : Index}

theorem settled_ofSnapshot (config : Config) (decoder : Mime.Decoder) {snapshot : Snapshot}
    (sound : snapshot.Sound) : (ofSnapshot config decoder snapshot).Settled :=
  ⟨sound, sound, fun _ => rfl⟩

theorem Settled.commitPending (settled : index.Settled) : index.commitPending.Settled := by
  refine ⟨?_, ?_, fun _ => ?_⟩
  · rw [committed_commitPending settled.clean]
    exact settled.written
  · rw [written_commitPending]
    exact settled.written
  · rw [committed_commitPending settled.clean, written_commitPending]

theorem settled_afterWrite {written : Snapshot} (committed : index.committed.Sound)
    (sound : written.Sound) : (index.afterWrite written).Settled := by
  unfold afterWrite
  split
  · exact ⟨sound, sound, fun _ => rfl⟩
  · exact ⟨committed, sound, fun clean => absurd clean (by simp)⟩

end Index

/-! ## Jobs -/

/-- All that a script makes visible is sound, and it leaves a settled index. -/
def Script.Leads (index : Index) : Script → Prop
  | done => index.Settled
  | act action rest => index.committed.Sound ∧ rest.Leads (action.perform index)
  | lookUp query rest => index.committed.Sound ∧ (rest (index.committed.uids query)).Leads index

namespace Script

variable {index : Index}

theorem Leads.committed {script : Script} (leads : script.Leads index) : index.committed.Sound := by
  cases script with
  | done => exact Index.Settled.committed leads
  | act action rest => exact leads.1
  | lookUp query rest => exact leads.1

theorem leads_finish (committed : index.committed.Sound) (written : index.written.Sound) :
    Script.finish.Leads index :=
  ⟨committed, Index.settled_afterWrite committed written⟩

/-- Nothing is seen of documents while they are replaced. -/
theorem leads_replaceAll {rest : Script} {documents : List Document} (committed : index.committed.Sound)
    (leads : rest.Leads
      { index with written := documents.foldl (Index.replace index.analysis) index.written }) :
    (Script.replaceAll rest documents).Leads index := by
  induction documents generalizing index with
  | nil => exact leads
  | cons document others ih => exact ⟨committed, committed, ih committed leads⟩

end Script

/-- Both documents are of the same message. -/
structure MessageDocuments.Agree (documents : MessageDocuments) : Prop where
  mailbox : documents.flags.mailbox = documents.content.mailbox
  uid : documents.flags.uid = documents.content.uid

theorem MessageDocuments.agree_of_decoded {decoder : Mime.Decoder} {message : Message} {content : ContentDocument}
    (decoded : ContentDocument.ofMessage decoder message = .ok content) :
    MessageDocuments.Agree ⟨content, .ofMessage message⟩ := by
  unfold ContentDocument.ofMessage at decoded
  split at decoded
  · obtain rfl := Except.ok.inj decoded
    exact ⟨rfl, rfl⟩
  · simp at decoded

theorem MessageDocuments.agree_of_built {decoder : Mime.Decoder} {message : Message}
    {documents : MessageDocuments} (built : ofMessage decoder message = .ok documents) : documents.Agree := by
  unfold ofMessage at built
  split at built
  · next content decoded =>
    obtain rfl := Except.ok.inj built
    exact agree_of_decoded decoded
  · simp at built

/-- The documents that a job brings are of the same message. -/
def Job.Agrees : Job → Prop
  | put documents => documents.Agree
  | _ => True

/-- The keys of the documents that a job brings are indexed. -/
def Job.KeysFit : Job → Prop
  | put documents => (Document.flags documents.flags).label.Fits
  | _ => True

instance (job : Job) : Decidable job.KeysFit :=
  match job with
  | .put documents => inferInstanceAs (Decidable (Document.flags documents.flags).label.Fits)
  | .update .. | .delete .. | .commit | .close => .isTrue trivial

/-- A job on a settled index shows sound snapshots only and leaves the index settled. -/
theorem Job.leads_script {index : Index} (settled : index.Settled) (job : Job) (agrees : job.Agrees)
    (fits : job.KeysFit) : (job.script index).Leads index := by
  unfold script
  split
  · cases job with
    | put documents =>
        obtain ⟨mailbox, uid⟩ := agrees
        exact Script.leads_replaceAll settled.committed
          (Script.leads_finish settled.committed (settled.written.put index.analysis mailbox uid fits))
    | update mailbox range flags =>
        have ready := settled.commitPending
        refine ⟨settled.committed, ready.committed, Script.leads_replaceAll ready.committed
          (Script.leads_finish ready.committed ?_)⟩
        -- after the commit, the flags that are seen are those that are written
        have present : ∀ uid ∈ index.commitPending.committed.uids (Index.flagsQuery mailbox range),
            (⟨.flags, mailbox, uid⟩ : DocumentLabel) ∈ index.commitPending.written.labels := by
          intro uid found
          rw [index.written_commitPending, ← index.committed_commitPending settled.clean]
          exact (ready.committed.mem_uids_flagsQuery.mp found).1
        have reflagged := ready.written.reflag index.commitPending.analysis mailbox flags _ present
        rwa [← List.foldl_map] at reflagged
    | delete mailbox range =>
        exact ⟨settled.committed, Script.leads_finish settled.committed
          (settled.written.remove mailbox range)⟩
    | commit => exact ⟨settled.committed, settled.commitPending⟩
    | close =>
        have ready := settled.commitPending
        exact ⟨settled.committed, ready.committed, ready.committed, ready.written, ready.clean⟩
  · exact settled

/-! ## Traffic -/

/-- The documents of each job that is left to do are of the same message. -/
def Task.Agrees : Task → Prop
  | lock job next => job.Agrees ∧ next.Agrees
  | _ => True

theorem Call.agrees_task (index : Index) (call : Call) : (call.task index).Agrees := by
  cases call with
  | add mailbox message => trivial
  | importAll target first sources => trivial
  | requestCommit =>
      rw [task]
      split
      · trivial
      · exact ⟨trivial, trivial⟩
  | _ => exact ⟨trivial, trivial⟩

theorem Task.agrees_advance {task : Task} (agrees : task.Agrees) (index : Index) :
    (task.advance index).Agrees := by
  cases task with
  | ended => trivial
  | add mailbox message =>
      rw [advance]
      split
      · trivial
      · split
        · trivial
        · next documents built => exact ⟨MessageDocuments.agree_of_built built, trivial⟩
  | start target first sources => trivial
  | append target uid sources =>
      cases sources with
      | nil => trivial
      | cons source rest =>
          rw [advance]
          split
          · trivial
          · split
            · trivial
            · next documents built => exact ⟨MessageDocuments.agree_of_built built, trivial⟩
  | lock job next => exact agrees

/-- The job that gets the lock with an event. -/
def Traffic.started? (traffic : Traffic) : Event → Option Job
  | .acquire place =>
    match traffic.holder, traffic.tasks[place]? with
    | none, some (.lock job _) => some job
    | _, _ => none
  | _ => none

/-- Along some events, the keys of all documents that are written are indexed. -/
def Traffic.KeysFit (traffic : Traffic) : List Event → Prop
  | [] => True
  | event :: rest => (∀ job ∈ traffic.started? event, job.KeysFit) ∧ (traffic.step event).KeysFit rest

instance decidableKeysFit (traffic : Traffic) (events : List Event) : Decidable (traffic.KeysFit events) :=
  match events with
  | [] => .isTrue trivial
  | event :: rest =>
    have := decidableKeysFit (traffic.step event) rest
    inferInstanceAs (Decidable (_ ∧ _))

namespace Traffic

/-- What every step keeps: if the lock is free the index is settled, and if not its holder leads there. -/
structure Safe (traffic : Traffic) : Prop where
  free : traffic.holder = none → traffic.index.Settled
  held : ∀ holder, traffic.holder = some holder →
    holder.script.Leads traffic.index ∧ holder.next.Agrees
  tasks : ∀ task ∈ traffic.tasks, task.Agrees

theorem Safe.committed {traffic : Traffic} (safe : traffic.Safe) : traffic.index.committed.Sound := by
  cases holder : traffic.holder with
  | none => exact (safe.free holder).committed
  | some held => exact (safe.held held holder).1.committed

theorem safe_start (config : Config) (decoder : Mime.Decoder) : (start config decoder).Safe := by
  refine ⟨fun _ => Index.settled_ofSnapshot config decoder Snapshot.sound_nil, fun holder held => ?_, ?_⟩
  · simp [start] at held
  · simp [start]

/-- One more task does no harm. -/
theorem Safe.issue {traffic : Traffic} (safe : traffic.Safe) {task : Task} (agrees : task.Agrees) :
    Safe { traffic with tasks := traffic.tasks ++ [task] } := by
  refine ⟨safe.free, safe.held, fun other listed => ?_⟩
  rcases List.mem_append.mp listed with listed | listed
  · exact safe.tasks other listed
  · obtain rfl := List.mem_singleton.mp listed
    exact agrees

theorem Safe.advance {traffic : Traffic} (safe : traffic.Safe) (place : Nat) :
    (traffic.step (.advance place)).Safe := by
  refine ⟨safe.free, safe.held, fun other listed => ?_⟩
  obtain ⟨position, bound, rfl⟩ := List.mem_iff_getElem.mp listed
  simp only [step, List.getElem_modify]
  split
  · exact Task.agrees_advance (safe.tasks _ (List.getElem_mem _)) traffic.index
  · exact safe.tasks _ (List.getElem_mem _)

theorem Safe.acquire {traffic : Traffic} (safe : traffic.Safe) {place : Nat}
    (fits : ∀ job ∈ traffic.started? (.acquire place), job.KeysFit) : (traffic.step (.acquire place)).Safe := by
  rw [step]
  split
  · next job next holder waiting =>
    obtain ⟨agrees, others⟩ := safe.tasks _ (List.mem_of_getElem? waiting)
    have started : job ∈ traffic.started? (.acquire place) := by simp [started?, holder, waiting]
    refine ⟨fun free => ?_, fun taken held => ?_, fun task listed => ?_⟩
    · simp at free
    · obtain rfl := Option.some.inj held
      exact ⟨job.leads_script (safe.free holder) agrees (fits job started), others⟩
    · exact safe.tasks task (List.mem_of_mem_eraseIdx listed)
  · exact safe

theorem Safe.act {traffic : Traffic} (safe : traffic.Safe) : (traffic.step .act).Safe := by
  rw [step]
  split
  · exact safe
  · next next holder =>
    obtain ⟨leads, others⟩ := safe.held _ holder
    have freed : Safe { traffic with holder := none } := by
      refine ⟨fun _ => leads, fun other held => ?_, safe.tasks⟩
      simp at held
    exact freed.issue others
  · next action rest next holder =>
    obtain ⟨leads, others⟩ := safe.held _ holder
    refine ⟨fun free => ?_, fun other held => ?_, safe.tasks⟩
    · simp at free
    · obtain rfl := Option.some.inj held
      exact ⟨leads.2, others⟩
  · next query rest next holder =>
    obtain ⟨leads, others⟩ := safe.held _ holder
    refine ⟨fun free => ?_, fun other held => ?_, safe.tasks⟩
    · simp at free
    · obtain rfl := Option.some.inj held
      exact ⟨leads.2, others⟩

/-- Nothing that happens breaks the invariant. -/
theorem Safe.step {traffic : Traffic} (safe : traffic.Safe) {event : Event}
    (fits : ∀ job ∈ traffic.started? event, job.KeysFit) : (traffic.step event).Safe := by
  cases event with
  | issue call => exact safe.issue (call.agrees_task traffic.index)
  | advance place => exact safe.advance place
  | acquire place => exact safe.acquire fits
  | act => exact safe.act
  | tick =>
      rw [Traffic.step]
      split
      · exact safe
      · exact safe.issue ⟨trivial, trivial⟩
  | restart config decoder =>
      refine ⟨fun _ => Index.settled_ofSnapshot config decoder safe.committed, fun holder held => ?_, ?_⟩
      · simp [Traffic.step] at held
      · simp [Traffic.step]

theorem Safe.run {traffic : Traffic} (safe : traffic.Safe) {events : List Event}
    (fits : traffic.KeysFit events) : (traffic.run events).Safe := by
  induction events generalizing traffic with
  | nil => exact safe
  | cons event rest ih => exact ih (safe.step fits.1) fits.2

end Traffic

/-! ## What searches see -/

/-- What holds of the documents of an index at each moment. -/
structure Snapshot.Consistent (snapshot : Snapshot) : Prop where
  /-- A message has one content document and one flags document, or none of either. -/
  paired : snapshot.Paired
  flagsFields : ∀ entry ∈ snapshot, entry.document.kind = .flags →
    ∀ field, entry.document.values field ≠ [] → field ∈ [.id, .kind, .mailbox, .uid, .flags]
  contentFlagless : ∀ entry ∈ snapshot, entry.document.kind = .message →
    entry.document.values .flags = []
  counts : snapshot.statistics.messages = snapshot.statistics.flagsDocuments

theorem Snapshot.Paired.consistent {snapshot : Snapshot} (paired : snapshot.Paired) :
    snapshot.Consistent := by
  refine ⟨paired, fun entry _ flags field some => ?_, fun entry _ content => ?_, paired.statistics_eq⟩
  · cases held : entry.document with
    | content document => simp [held, Document.kind] at flags
    | flags document =>
        rw [held] at some
        cases field <;> simp_all [Document.values, Document.flagsValues]
  · cases held : entry.document with
    | content document => rfl
    | flags document => simp [held, Document.kind] at content

/-- Whatever the callers of a new index do, and whenever they do it, what searches see is consistent. -/
theorem Traffic.consistent_run (config : Config) (decoder : Mime.Decoder) {events : List Event}
    (fits : (start config decoder).KeysFit events) :
    ((start config decoder).run events).index.committed.Consistent :=
  ((safe_start config decoder).run fits).committed.paired.consistent

/-- A letter without text in the inbox. -/
def emptyLetter : Message :=
  ⟨⟨"inbox"⟩, 1, .epoch, 0, .empty, []⟩

theorem fits_inbox (kind : DocumentKind) (uid : Uid) : DocumentLabel.Fits ⟨kind, ⟨"inbox"⟩, uid⟩ :=
  DocumentLabel.fits_of_name (by decide) kind uid

/-- While an update of a pending message holds the lock, an import reads its first number and a deletion
is asked for. -/
theorem Traffic.consistent_run_race :
    ((start { Config.small with commitInterval := some 60 } fun _ => .ok []).run
      [.issue (.add ⟨"inbox"⟩ emptyLetter), .advance 0, .acquire 0, .act, .act, .act, .act, .act, .act,
        .issue (.update ⟨"inbox"⟩ .all (.ofList [.system .seen])), .acquire 1, .act,
        .issue (.importAll ⟨⟨"inbox"⟩, .empty, fun _ => .epoch⟩ none [.file "letter" (.ok [])]), .advance 1,
        .advance 1, .issue (.delete ⟨"inbox"⟩ ⟨1, 1⟩), .act, .act, .act, .act, .act, .acquire 2, .act, .act, .act,
        .acquire 1, .act, .tick]).index.committed.Consistent := by
  exact consistent_run _ _ (by decide +kernel)

end Letterbox
