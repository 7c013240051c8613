import Letterbox.Proofs.Interleaving
import Letterbox.Proofs.Ledger
import Letterbox.Proofs.SearchAnswer

/-!
# An index as a ledger

Main statement: an index that commits each write at once is the ledger of its messages, after any history.
Adding, updating and deleting messages change the ledger as they should, and searches see the ledger.
-/

namespace Letterbox

/-! ## What every call keeps -/

namespace Index

/-- An index that commits each write at once has nothing pending. -/
def Tidy (index : Index) : Prop :=
  index.config.commitsAtOnce = true → index.isDirty = false

/-- What holds of an index before and after every call. -/
structure Kept (index : Index) : Prop where
  settled : index.Settled
  tidy : index.Tidy
  valid : index.config.validateNumbers = .ok ()

end Index

theorem Action.config_perform (index : Index) (action : Action) :
    (action.perform index).config = index.config := by
  cases action with
  | commitPending => exact index.config_commitPending
  | finish => exact index.config_afterWrite index.written
  | _ => rfl

theorem Action.tidy_perform {index : Index} (tidy : index.Tidy) (action : Action) :
    (action.perform index).Tidy := by
  intro atOnce
  rw [action.config_perform] at atOnce
  cases action with
  | commitPending => exact index.isDirty_commitPending
  | finish =>
      rw [perform, Index.afterWrite, if_pos atOnce]
      rfl
  | _ => exact tidy atOnce

namespace Script

theorem config_run (index : Index) (script : Script) : (script.run index).config = index.config := by
  induction script generalizing index with
  | done => rfl
  | act action rest ih => exact (ih _).trans (action.config_perform index)
  | lookUp query rest ih => exact ih _ index

theorem tidy_run {index : Index} (tidy : index.Tidy) (script : Script) : (script.run index).Tidy := by
  induction script generalizing index with
  | done => exact tidy
  | act action rest ih => exact ih (action.tidy_perform tidy)
  | lookUp query rest ih => exact ih _ tidy

theorem Leads.settled_run {index : Index} {script : Script} (leads : script.Leads index) :
    (script.run index).Settled := by
  induction script generalizing index with
  | done => exact leads
  | act action rest ih => exact ih leads.2
  | lookUp query rest ih => exact ih _ leads.2

end Script

namespace Index

variable {index next : Index}

theorem Kept.apply (kept : index.Kept) (job : Job) (agrees : job.Agrees) (fits : job.KeysFit) :
    (job.apply index).Kept := by
  rw [← job.run_script]
  refine ⟨(job.leads_script kept.settled agrees fits).settled_run, Script.tidy_run kept.tidy _, ?_⟩
  rw [Script.config_run]
  exact kept.valid

theorem kept_ofSnapshot {config : Config} (decoder : Mime.Decoder) {snapshot : Snapshot}
    (valid : config.validateNumbers = .ok ()) (sound : snapshot.Sound) :
    (ofSnapshot config decoder snapshot).Kept :=
  ⟨settled_ofSnapshot config decoder sound, fun _ => rfl, valid⟩

/-! ## Histories -/

/-- The indexes that calls lead to, with keys that are indexed. -/
inductive Reachable : Index → Prop
  | opened (config : Config) (decoder : Mime.Decoder) :
      config.validateNumbers = .ok () → Reachable (ofSnapshot config decoder [])
  | reopened {index : Index} (config : Config) (decoder : Mime.Decoder) :
      Reachable index → config.validateNumbers = .ok () →
        Reachable (ofSnapshot config decoder index.committed)
  | added {index next : Index} {mailbox : Mailbox} {message : Message} :
      Reachable index → DocumentLabel.Fits ⟨.flags, mailbox, message.uid⟩ →
        index.add mailbox message = .ok next → Reachable next
  | updated {index next : Index} {mailbox : Mailbox} {range : UidRange} {flags : Flags} {count : Nat} :
      Reachable index → index.update mailbox range flags = .ok (next, count) → Reachable next
  | deleted {index next : Index} {mailbox : Mailbox} {range : UidRange} :
      Reachable index → index.delete mailbox range = .ok next → Reachable next
  | flushed {index next : Index} : Reachable index → index.flush = .ok next → Reachable next
  | requested {index : Index} : Reachable index → Reachable index.requestCommit
  | closed {index : Index} : Reachable index → Reachable index.close

theorem Reachable.kept (reachable : Reachable index) : index.Kept := by
  induction reachable with
  | opened config decoder valid => exact kept_ofSnapshot decoder valid Snapshot.sound_nil
  | reopened config decoder before valid kept => exact kept_ofSnapshot decoder valid kept.settled.committed
  | added before fits done kept =>
      obtain ⟨rfl, content, decoded, put⟩ := add_ok done
      have job := kept.apply (.put ⟨content, .ofMessage _⟩) (MessageDocuments.agree_of_decoded decoded) fits
      rwa [Job.apply, put] at job
  | @updated index next mailbox range flags count before done kept =>
      have job := kept.apply (.update mailbox range flags) trivial trivial
      rwa [Job.apply, done] at job
  | @deleted index next mailbox range before done kept =>
      have job := kept.apply (.delete mailbox range) trivial trivial
      rwa [Job.apply, done] at job
  | flushed before done kept =>
      have job := kept.apply .commit trivial trivial
      rwa [Job.apply, done] at job
  | @requested index before kept =>
      unfold requestCommit
      split
      · next asked =>
        have job := kept.apply .commit trivial trivial
        rwa [Job.apply, flush_eq, if_pos asked.1] at job
      · exact kept
  | closed before kept => exact kept.apply .close trivial trivial

/-- An import is a history of additions. -/
theorem Reachable.imported (reachable : Reachable index) {target : ImportTarget} {uid : Uid}
    {sources : List ImportSource}
    (fits : ∀ new ∈ (index.importFrom target uid sources).2.uids,
      DocumentLabel.Fits ⟨.flags, target.mailbox, new⟩) :
    Reachable (index.importFrom target uid sources).1 := by
  fun_induction index.importFrom target uid sources with
  | case1 index target uid => exact reachable
  | case2 index target uid source rest fault unreadable last report imported ih =>
      rw [imported] at ih
      exact ih reachable fits
  | case3 index target uid source rest content readable cause refused last report imported ih =>
      rw [imported] at ih
      exact ih reachable fits
  | case4 index target uid source rest content readable next added last report imported ih =>
      rw [imported] at ih
      obtain ⟨first, others⟩ := List.forall_mem_cons.mp fits
      have own : DocumentLabel.Fits ⟨.flags, target.mailbox, (target.message uid content).uid⟩ := first
      exact ih (reachable.added own added) others

end Index

/-! ## What searches see of a ledger -/

namespace Snapshot

variable {snapshot : Snapshot}

/-- The contents of a mailbox have the numbers of the ledger. -/
theorem Sound.mem_uids_iff_ledger (sound : snapshot.Sound) {mailbox : Mailbox} {uid : Uid} :
    uid ∈ snapshot.uids (.both (.inMailbox mailbox) .allMessages)
      ↔ uid ∈ snapshot.ledger.uids mailbox := by
  rw [sound.mem_uids_allMessages, sound.paired.content_iff_flags, sound.paired.mem_ledger_uids]

/-- The flags of a mailbox in a range have the numbers of the ledger in that range. -/
theorem Sound.mem_flags_iff_ledger (sound : snapshot.Sound) {mailbox : Mailbox} {range : UidRange}
    {uid : Uid} :
    uid ∈ snapshot.uids (Index.flagsQuery mailbox range)
      ↔ uid ∈ snapshot.ledger.uidsIn mailbox range := by
  rw [sound.mem_uids_flagsQuery, Ledger.mem_uidsIn, sound.paired.mem_ledger_uids]

theorem Paired.strict_uids_allMessages (paired : snapshot.Paired) (mailbox : Mailbox) :
    (snapshot.uids (.both (.inMailbox mailbox) .allMessages)).Pairwise (· < ·) := by
  have alike : ∀ entry ∈ snapshot, (Query.both (.inMailbox mailbox) .allMessages).selects entry = true →
      entry.document.kind = .message ∧ entry.document.mailbox = mailbox := by
    intro entry _ selected
    rw [Query.selects_both, Query.selects_inMailbox, Query.selects_allMessages] at selected
    exact ⟨selected.2, selected.1.1⟩
  exact strict_uids (paired.nodup_uids alike)

/-- An update counts the messages that it finds. -/
theorem Sound.length_uids_flagsQuery (sound : snapshot.Sound) (mailbox : Mailbox) (range : UidRange) :
    (snapshot.uids (Index.flagsQuery mailbox range)).length
      = (snapshot.ledger.uidsIn mailbox range).ncard := by
  have alike : ∀ entry ∈ snapshot, (Index.flagsQuery mailbox range).selects entry = true →
      entry.document.kind = .flags ∧ entry.document.mailbox = mailbox := by
    intro entry _ selected
    rw [Index.flagsQuery, Query.selects_both, Query.selects_both, Query.selects_inMailbox,
      Query.selects_ofKind] at selected
    exact ⟨selected.1.2, selected.1.1.1⟩
  have distinct : (snapshot.uids (Index.flagsQuery mailbox range)).Nodup :=
    (strict_uids (sound.paired.nodup_uids alike)).imp UInt64.ne_of_lt
  have same : snapshot.ledger.uidsIn mailbox range
      = ↑(snapshot.uids (Index.flagsQuery mailbox range)).toFinset := by
    refine Set.ext fun uid => ?_
    rw [List.coe_toFinset]
    exact sound.mem_flags_iff_ledger.symm
  rw [same, Set.ncard_coe_finset, List.toFinset_card_of_nodup distinct]

end Snapshot

namespace Index

/-! ## An index as the ledger of its messages -/

/-- The ledger that searches see. -/
def ledger (index : Index) : Ledger :=
  index.committed.ledger

/-- An index does with its ledger what its calls promise, and searches see the ledger. -/
structure Refines (index : Index) : Prop where
  /-- Messages stand where they belong. -/
  own : ∀ {mailbox uid held}, index.ledger mailbox uid = some held →
    held.content.mailbox = mailbox ∧ held.content.uid = uid
  /-- There are both documents of each message, once, and no others. -/
  distinct : index.committed.documents.Nodup
  documents : ∀ document, document ∈ index.committed.documents
    ↔ ∃ mailbox uid held, index.ledger mailbox uid = some held ∧ document ∈ held.documents
  add : ∀ {mailbox message next}, DocumentLabel.Fits ⟨.flags, mailbox, message.uid⟩ →
    index.add mailbox message = .ok next →
      ∃ content, ContentDocument.ofMessage index.decoder message = .ok content
        ∧ next.ledger = index.ledger.put mailbox message.uid ⟨content, message.flags⟩
  update : ∀ {mailbox range flags next count}, index.update mailbox range flags = .ok (next, count) →
    next.ledger = index.ledger.reflag mailbox range flags
      ∧ count = (index.ledger.uidsIn mailbox range).ncard
      ∧ (range.last < range.first → count = 0)
      ∧ (count = 0 → next.committed = index.committed)
  delete : ∀ {mailbox range next}, index.delete mailbox range = .ok next →
    next.ledger = index.ledger.remove mailbox range
      ∧ (range.last < range.first → next.ledger = index.ledger)
  flush : ∀ {next}, index.flush = .ok next → next.ledger = index.ledger
  requestCommit : index.requestCommit.ledger = index.ledger
  close : index.close.ledger = index.ledger
  search : ∀ mailbox, ∃ uids : List Uid, uids.Pairwise (· < ·)
    ∧ (∀ uid, uid ∈ uids ↔ uid ∈ index.ledger.uids mailbox)
    ∧ index.search mailbox .all = .ok (uids.take index.config.maxResults)
  highestUid : ∀ mailbox uid, index.highestUid? mailbox = some uid
    ↔ uid ∈ index.ledger.uids mailbox ∧ ∀ other ∈ index.ledger.uids mailbox, other ≤ uid
  noUid : ∀ mailbox, index.highestUid? mailbox = none ↔ index.ledger.uids mailbox = ∅

variable {index next : Index}

theorem maxResults_of_valid (valid : index.config.validateNumbers = .ok ()) :
    1 ≤ index.config.maxResults := by
  unfold Config.validateNumbers at valid
  split at valid
  · simp at valid
  · next some => exact Nat.one_le_iff_ne_zero.mpr some

namespace Kept

variable {mailbox : Mailbox} {range : UidRange} {flags : Flags} {count : Nat}

theorem ledger_add (kept : index.Kept) (atOnce : index.config.commitsAtOnce = true) {message : Message}
    (fits : DocumentLabel.Fits ⟨.flags, mailbox, message.uid⟩)
    (done : index.add mailbox message = .ok next) :
    ∃ content, ContentDocument.ofMessage index.decoder message = .ok content
      ∧ next.ledger = index.ledger.put mailbox message.uid ⟨content, message.flags⟩ := by
  obtain ⟨rfl, content, decoded, put⟩ := add_ok done
  obtain ⟨place, number⟩ := MessageDocuments.agree_of_decoded decoded
  have same : index.committed = index.written := kept.settled.clean (kept.tidy atOnce)
  refine ⟨content, decoded, ?_⟩
  rw [(put_ok put).2, ledger, committed_afterWrite atOnce,
    kept.settled.written.ledger_put index.analysis place number fits, ledger, same, ← place, ← number]
  rfl

theorem ledger_update (kept : index.Kept) (atOnce : index.config.commitsAtOnce = true)
    (done : index.update mailbox range flags = .ok (next, count)) :
    next.ledger = index.ledger.reflag mailbox range flags
      ∧ count = (index.ledger.uidsIn mailbox range).ncard
      ∧ (range.last < range.first → count = 0)
      ∧ (count = 0 → next.committed = index.committed) := by
  have clean := kept.tidy atOnce
  have same : index.committed = index.written := kept.settled.clean clean
  have sound := kept.settled.written
  obtain ⟨-, rfl, rfl⟩ := update_ok done
  rw [commitPending_of_clean clean, reflagged, ledger, committed_afterWrite atOnce, ledger, same,
    sound.length_uids_flagsQuery mailbox range]
  refine ⟨sound.ledger_reflag index.analysis fun uid => sound.mem_flags_iff_ledger, rfl,
    fun reversed => ?_, fun none => ?_⟩
  · rw [Ledger.uidsIn_of_reversed _ _ reversed, Set.ncard_empty]
  · rw [← sound.length_uids_flagsQuery] at none
    rw [List.length_eq_zero_iff.mp none]
    rfl

theorem ledger_delete (kept : index.Kept) (atOnce : index.config.commitsAtOnce = true)
    (done : index.delete mailbox range = .ok next) :
    next.ledger = index.ledger.remove mailbox range
      ∧ (range.last < range.first → next.ledger = index.ledger) := by
  have same : index.committed = index.written := kept.settled.clean (kept.tidy atOnce)
  have removed : next.ledger = index.ledger.remove mailbox range := by
    rw [(delete_ok done).2, ledger, committed_afterWrite atOnce, ledger, same]
    exact kept.settled.written.ledger_remove mailbox range
  exact ⟨removed, fun reversed => removed.trans (Ledger.remove_of_reversed _ _ reversed)⟩

theorem search_all (kept : index.Kept) (mailbox : Mailbox) :
    index.search mailbox .all
      = .ok ((index.committed.uids (.both (.inMailbox mailbox) .allMessages)).take
        index.config.maxResults) := by
  have valid : Criterion.all.validate = .ok () := rfl
  obtain ⟨query, translated, found⟩ := index.search_eq mailbox valid
  obtain rfl : Query.allMessages = query := Except.ok.inj translated
  rw [found, Nat.max_eq_left (maxResults_of_valid kept.valid)]

end Kept

/-- After any history, an index that commits each write at once is the ledger of its messages. -/
theorem Reachable.refines (reachable : Reachable index) (atOnce : index.config.commitsAtOnce = true) :
    index.Refines := by
  have kept := reachable.kept
  have clean := kept.tidy atOnce
  have sound : index.committed.Sound := kept.settled.committed
  have strict := sound.paired.strict_uids_allMessages
  have listed : ∀ mailbox uid, uid ∈ index.committed.uids (.both (.inMailbox mailbox) .allMessages)
      ↔ uid ∈ index.ledger.uids mailbox := fun _ _ => sound.mem_uids_iff_ledger
  constructor
  case own => exact fun found => (sound.paired.ledger_eq_some.mp found).1
  case distinct => exact sound.paired.nodup_documents
  case documents => exact fun _ => sound.paired.mem_documents
  case add => exact kept.ledger_add atOnce
  case update => exact kept.ledger_update atOnce
  case delete => exact kept.ledger_delete atOnce
  case flush =>
    intro next done
    rw [(flush_ok done).2, commitPending_of_clean clean]
  case requestCommit =>
    unfold Index.requestCommit
    split
    · rw [commitPending_of_clean clean]
    · rfl
  case close =>
    unfold Index.close
    split
    · rw [commitPending_of_clean clean]
      rfl
    · rfl
  case search => exact fun mailbox => ⟨_, strict mailbox, listed mailbox, kept.search_all mailbox⟩
  case highestUid =>
    intro mailbox uid
    rw [highestUid?, Snapshot.highestUid?, getLast?_eq_some_iff_greatest (strict mailbox)]
    simp only [listed]
  case noUid =>
    intro mailbox
    rw [highestUid?, Snapshot.highestUid?, List.getLast?_eq_none_iff, List.eq_nil_iff_forall_not_mem,
      Set.eq_empty_iff_forall_notMem]
    simp only [listed]

/-- A letter was added to an empty inbox. -/
theorem Reachable.refines_inbox :
    ∃ index : Index, 1 ∈ index.ledger.uids ⟨"inbox"⟩ ∧ index.Refines := by
  have opened : Reachable (ofSnapshot .small (fun _ => .ok []) []) := .opened .small _ rfl
  obtain ⟨next, done⟩ : ∃ next,
      (ofSnapshot .small (fun _ => .ok []) []).add ⟨"inbox"⟩ emptyLetter = .ok next := ⟨_, rfl⟩
  have atOnce : next.config.commitsAtOnce = true := by
    obtain ⟨-, content, -, put⟩ := add_ok done
    rw [(put_ok put).2]
    rfl
  have fits := fits_inbox .flags emptyLetter.uid
  obtain ⟨content, -, entered⟩ := (opened.refines rfl).add fits done
  refine ⟨next, ⟨⟨content, .empty⟩, ?_⟩, (opened.added fits done).refines atOnce⟩
  rw [entered]
  exact if_pos ⟨rfl, rfl⟩

end Index

end Letterbox
