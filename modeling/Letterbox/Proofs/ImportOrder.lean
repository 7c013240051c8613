import Letterbox.Proofs.History
import Letterbox.Proofs.Refinement

/-!
# Numbers of imported messages

An import without a first number goes on behind the highest number that searches see. Main statement: after
any history an import gives only numbers above those of the messages in the mailbox, and all messages of
before are still there behind it, if searches see a number as high as each of them. An index that commits
each write at once shows all numbers; with a commit interval, a pending message can be overwritten.
-/

namespace Letterbox

/-! ## Numbers -/

theorem toNat_nextUid (uid : Uid) : (nextUid uid).toNat = min (uid.toNat + 1) lastUid.toNat := by
  have bound := uid.toNat_lt
  unfold nextUid
  split
  · next last =>
    rw [last]
    rfl
  · next inside =>
    have apart : uid.toNat ≠ 18446744073709551615 := fun same => inside (UInt64.toNat_inj.mp same)
    rw [UInt64.toNat_add]
    change (uid.toNat + 1) % 2 ^ 64 = min (uid.toNat + 1) 18446744073709551615
    omega

theorem toNat_le_lastUid (uid : Uid) : uid.toNat ≤ lastUid.toNat :=
  Nat.le_of_lt_succ uid.toNat_lt

theorem le_nextUid (uid : Uid) : uid ≤ nextUid uid := by
  have bound := toNat_le_lastUid uid
  rw [UInt64.le_iff_toNat_le, toNat_nextUid]
  omega

/-- The number after one is above it and all below, but for the last one. -/
theorem lt_nextUid {uid top : Uid} (inside : uid < lastUid) (le : uid ≤ top) : uid < nextUid top := by
  rw [UInt64.lt_iff_toNat_lt] at inside
  rw [UInt64.le_iff_toNat_le] at le
  rw [UInt64.lt_iff_toNat_lt, toNat_nextUid]
  omega

/-- The highest number that a snapshot shows is that of its ledger. -/
theorem Snapshot.Sound.highestUid?_eq_some {snapshot : Snapshot} (sound : snapshot.Sound) {mailbox : Mailbox}
    {uid : Uid} :
    snapshot.highestUid? mailbox = some uid
      ↔ uid ∈ snapshot.ledger.uids mailbox ∧ ∀ other ∈ snapshot.ledger.uids mailbox, other ≤ uid := by
  rw [highestUid?, getLast?_eq_some_iff_greatest (sound.paired.strict_uids_allMessages mailbox)]
  simp only [sound.mem_uids_iff_ledger]

namespace Index

variable {index : Index} {target : ImportTarget} {mailbox : Mailbox}

/-- The first number of an import is above each number up to one that searches see. -/
theorem lt_firstFreeUid (sound : index.committed.Sound) {uid seen : Uid} (inside : uid < lastUid)
    (shown : seen ∈ index.committed.ledger.uids mailbox) (le : uid ≤ seen) :
    uid < index.firstFreeUid mailbox := by
  unfold firstFreeUid
  cases highest : index.highestUid? mailbox with
  | none =>
      have listed := sound.mem_uids_iff_ledger.mpr shown
      rw [highestUid?, Snapshot.highestUid?, List.getLast?_eq_none_iff] at highest
      rw [highest] at listed
      simp at listed
  | some top =>
      have above := (sound.highestUid?_eq_some.mp highest).2 seen shown
      exact lt_nextUid inside (UInt64.le_trans le above)

/-- An import gives numbers from its first one on. -/
theorem le_of_mem_importFrom {uid new : Uid} {sources : List ImportSource}
    (listed : new ∈ (index.importFrom target uid sources).2.uids) : uid ≤ new := by
  fun_induction index.importFrom target uid sources with
  | case1 index target uid => simp [ImportReport.uids] at listed
  | case2 index target uid source rest fault unreadable last report imported ih =>
      rw [imported] at ih
      exact ih listed
  | case3 index target uid source rest content readable cause refused last report imported ih =>
      rw [imported] at ih
      exact UInt64.le_trans (le_nextUid uid) (ih listed)
  | case4 index target uid source rest content readable next added last report imported ih =>
      rw [imported] at ih
      rcases List.mem_cons.mp listed with rfl | later
      · exact UInt64.le_refl new
      · exact UInt64.le_trans (le_nextUid uid) (ih later)

/-- An import gives its numbers in strict order, unless it gives the last one twice. -/
theorem strict_importFrom_of_count {uid : Uid} {sources : List ImportSource}
    (once : (index.importFrom target uid sources).2.uids.count lastUid ≤ 1) :
    (index.importFrom target uid sources).2.uids.Pairwise (· < ·) := by
  fun_induction index.importFrom target uid sources with
  | case1 index target uid => exact .nil
  | case2 index target uid source rest fault unreadable last report imported ih =>
      rw [imported] at ih
      exact ih once
  | case3 index target uid source rest content readable cause refused last report imported ih =>
      rw [imported] at ih
      exact ih once
  | case4 index target uid source rest content readable next added last report imported ih =>
      rw [imported] at ih
      have count : (uid :: report.uids).count lastUid ≤ 1 := once
      rw [List.count_cons] at count
      refine List.pairwise_cons.mpr ⟨fun new listed => ?_, ih (Nat.le_of_add_right_le count)⟩
      have above : nextUid uid ≤ new := le_of_mem_importFrom (by rw [imported]; exact listed)
      by_cases inside : uid < lastUid
      · exact UInt64.lt_of_lt_of_le (lt_nextUid inside (UInt64.le_refl uid)) above
      · -- the last number comes after itself only
        have top : uid = lastUid := UInt64.le_antisymm (toNat_le_lastUid uid) (UInt64.not_lt.mp inside)
        have same : new = lastUid :=
          UInt64.le_antisymm (toNat_le_lastUid new) (top ▸ UInt64.le_trans (le_nextUid uid) above)
        have again : 0 < report.uids.count lastUid := List.count_pos_iff.mpr (same ▸ listed)
        rw [if_pos (beq_iff_eq.mpr top)] at count
        omega

/-- An import gives its numbers in strict order, below the last one. -/
theorem strict_importFrom {uid : Uid} {sources : List ImportSource}
    (inside : ∀ new ∈ (index.importFrom target uid sources).2.uids, new < lastUid) :
    (index.importFrom target uid sources).2.uids.Pairwise (· < ·) := by
  refine strict_importFrom_of_count ?_
  rw [List.count_eq_zero.mpr fun listed => UInt64.lt_irrefl lastUid (inside lastUid listed)]
  exact Nat.zero_le 1

theorem isOpen_importFrom (index : Index) (target : ImportTarget) (uid : Uid) (sources : List ImportSource) :
    (index.importFrom target uid sources).1.isOpen = index.isOpen := by
  fun_induction index.importFrom target uid sources with
  | case1 index target uid => rfl
  | case2 index target uid source rest fault unreadable last report imported ih =>
      rw [imported] at ih
      exact ih
  | case3 index target uid source rest content readable cause refused last report imported ih =>
      rw [imported] at ih
      exact ih
  | case4 index target uid source rest content readable next added last report imported ih =>
      rw [imported] at ih
      exact ih.trans (isOpen_of_add added)

end Index

/-- An import leaves each message alone whose number it does not give. -/
theorem Ledger.enterAll_apart {ledger : Ledger} {decoder : Mime.Decoder} {target : ImportTarget}
    {sources : List ImportSource} {report : ImportReport} {mailbox : Mailbox} {uid : Uid}
    (apart : mailbox = target.mailbox → uid ∉ report.uids) :
    ledger.enterAll decoder target sources report mailbox uid = ledger mailbox uid := by
  fun_induction ledger.enterAll decoder target sources report with
  | case1 ledger target source sources new report content readable ih =>
      have later : mailbox = target.mailbox → uid ∉ ImportReport.uids report := fun same listed =>
        apart same (List.mem_cons_of_mem _ listed)
      rw [ih later, enter]
      cases ContentDocument.ofMessage decoder (target.message new content) with
      | error failure => rfl
      | ok document =>
          refine if_neg ?_
          rintro ⟨same, rfl⟩
          exact apart same List.mem_cons_self
  | case2 ledger target source sources new report fault unreadable ih =>
      exact ih fun same listed => apart same (List.mem_cons_of_mem _ listed)
  | case3 ledger target source sources fault report content readable ih => exact ih apart
  | case4 ledger target source sources fault report cause unreadable ih => exact ih apart
  | case5 ledger target sources report => rfl

/-! ## The ledger of a history -/

/-- The keys of the documents of a message are indexed. -/
def Mailbox.KeysFit (mailbox : Mailbox) (uid : Uid) : Prop :=
  DocumentLabel.Fits ⟨.flags, mailbox, uid⟩

namespace Index

theorem Kept.commitPending {index : Index} (kept : index.Kept) : index.commitPending.Kept :=
  ⟨kept.settled.commitPending, fun _ => index.isDirty_commitPending, by
    rw [config_commitPending]
    exact kept.valid⟩

/-- The documents that were written are those of the messages that the answers to the calls tell. -/
theorem keptByWrites_ledger :
    KeptByWrites Mailbox.KeysFit fun index held => index.Kept ∧ index.written.ledger = held where
  add := by
    rintro index next held mailbox message ⟨kept, rfl⟩ fits added
    obtain ⟨rfl, content, decoded, put⟩ := add_ok added
    obtain ⟨place, number⟩ := MessageDocuments.agree_of_decoded decoded
    have job := kept.apply (.put ⟨content, .ofMessage message⟩) ⟨place, number⟩ fits
    rw [Job.apply, put] at job
    refine ⟨job, ?_⟩
    rw [(put_ok put).2, written_afterWrite, kept.settled.written.ledger_put index.analysis place number fits,
      Ledger.enter, decoded, ← place, ← number]
    rfl
  update := by
    rintro index next held mailbox range flags count ⟨kept, rfl⟩ updated
    have job := kept.apply (.update mailbox range flags) trivial trivial
    rw [Job.apply, updated] at job
    have ready := kept.commitPending
    have shown := index.committed_commitPending kept.settled.clean
    have found : ∀ uid, uid ∈ index.commitPending.committed.uids (flagsQuery mailbox range)
        ↔ uid ∈ index.commitPending.written.ledger.uidsIn mailbox range := by
      intro uid
      rw [ready.settled.committed.mem_flags_iff_ledger, shown, written_commitPending]
    refine ⟨job, ?_⟩
    rw [(update_ok updated).2.1, written_afterWrite, reflagged,
      ready.settled.written.ledger_reflag _ found, written_commitPending]
  delete := by
    rintro index next held mailbox range ⟨kept, rfl⟩ deleted
    have job := kept.apply (.delete mailbox range) trivial trivial
    rw [Job.apply, deleted] at job
    refine ⟨job, ?_⟩
    rw [(delete_ok deleted).2, written_afterWrite]
    exact kept.settled.written.ledger_remove mailbox range
  commit := by
    rintro index held ⟨kept, rfl⟩
    exact ⟨kept.commitPending, by rw [written_commitPending]⟩
  shut := by
    rintro index held ⟨kept, rfl⟩
    exact ⟨⟨⟨kept.settled.committed, kept.settled.written, kept.settled.clean⟩, kept.tidy, kept.valid⟩, rfl⟩

/-! ## Imports that spare what is there -/

/-- Of a mailbox, searches see a number as high as that of each message, committed or pending. -/
def ShowsHighest (index : Index) (mailbox : Mailbox) : Prop :=
  ∀ uid ∈ index.written.ledger.uids mailbox, ∃ seen ∈ index.committed.ledger.uids mailbox, uid ≤ seen

/-- What an import into a mailbox does to the messages that are held. -/
structure Spares (held : Ledger) (mailbox : Mailbox) (result : Index × ImportReport) : Prop where
  /-- The numbers of the import are above those of all messages of the mailbox, and of each other. -/
  above : ∀ uid ∈ held.uids mailbox, ∀ new ∈ result.2.uids, uid < new
  strict : (∀ new ∈ result.2.uids, new < lastUid) → result.2.uids.Pairwise (· < ·)
  /--
  After a final flush all messages are there, with the contents and flags that they had, if the keys of those
  that came are indexed.
  -/
  kept : (∀ new ∈ result.2.uids, mailbox.KeysFit new) → ∃ last, result.1.flush = .ok last
    ∧ ∀ other uid message, held other uid = some message → last.ledger other uid = some message

/-- If nothing is pending, searches see all numbers. -/
theorem Kept.showsHighest {index : Index} (kept : index.Kept) (clean : index.isDirty = false)
    (mailbox : Mailbox) : index.ShowsHighest mailbox := by
  intro uid listed
  rw [← kept.settled.clean clean] at listed
  exact ⟨uid, listed, UInt64.le_refl uid⟩

theorem Kept.spares_importFrom {index : Index} (kept : index.Kept) (isOpen : index.isOpen = true)
    {target : ImportTarget} (inside : ∀ uid ∈ index.written.ledger.uids target.mailbox, uid < lastUid)
    (shown : index.ShowsHighest target.mailbox) (sources : List ImportSource) :
    Spares index.written.ledger target.mailbox
      (index.importFrom target (index.firstFreeUid target.mailbox) sources) := by
  have above : ∀ uid ∈ index.written.ledger.uids target.mailbox,
      ∀ new ∈ (index.importFrom target (index.firstFreeUid target.mailbox) sources).2.uids, uid < new := by
    intro uid listed new given
    obtain ⟨seen, visible, le⟩ := shown uid listed
    have first := lt_firstFreeUid kept.settled.committed (inside uid listed) visible le
    exact UInt64.lt_of_lt_of_le first (le_of_mem_importFrom given)
  refine ⟨above, strict_importFrom, fun fits => ?_⟩
  obtain ⟨after, ledger⟩ := keptByWrites_ledger.importFrom ⟨kept, rfl⟩ fits
  refine ⟨_, (flush_eq _).trans (if_pos ((isOpen_importFrom ..).trans isOpen)), ?_⟩
  intro other uid message found
  rw [Index.ledger, committed_commitPending after.settled.clean, ledger, Ledger.enterAll_apart, found]
  rintro rfl given
  exact UInt64.lt_irrefl uid (above uid ⟨message, found⟩ uid given)

/--
After any history on an open index, an import without a first number, from files or from an archive, spares
all messages that were added or imported before, if it comes when searches see the highest numbers. They
always do when each write is committed at once.
-/
theorem spares_import {config : Config} (decoder : Mime.Decoder) (valid : config.validateNumbers = .ok ())
    {snapshot : Snapshot} (sound : snapshot.Sound) {calls : List Call}
    (fits : (ofSnapshot config decoder snapshot).Brings Mailbox.KeysFit calls) {live : Index}
    (reached : (ofSnapshot config decoder snapshot).after calls = live) (isOpen : live.isOpen = true)
    {target : ImportTarget} {held : Ledger}
    (told : (ofSnapshot config decoder snapshot).told snapshot.ledger calls = held)
    (inside : ∀ uid ∈ held.uids target.mailbox, uid < lastUid)
    (shown : config.commitsAtOnce = false → live.ShowsHighest target.mailbox) (files : FileTree) :
    (∀ paths, Spares held target.mailbox (live.importFiles files target none paths))
      ∧ ∀ path archive, files.read path = .ok archive →
        ∃ result, live.importArchive files target path = .ok result ∧ Spares held target.mailbox result := by
  have start : (ofSnapshot config decoder snapshot).Kept ∧ (ofSnapshot config decoder snapshot).written.ledger
      = snapshot.ledger := ⟨kept_ofSnapshot decoder valid sound, rfl⟩
  obtain ⟨kept, rfl⟩ : live.Kept ∧ live.written.ledger = held := by
    subst reached told
    exact keptByWrites_ledger.after start fits
  have seen : live.ShowsHighest target.mailbox := by
    cases atOnce : config.commitsAtOnce with
    | false => exact shown atOnce
    | true =>
        refine kept.showsHighest (kept.tidy ?_) target.mailbox
        rw [← reached, config_after]
        exact atOnce
  have spares := kept.spares_importFrom isOpen inside seen
  refine ⟨fun paths => spares _, fun path archive readable => ?_⟩
  refine ⟨_, ?_, spares ((Archive.entries archive).map .entry)⟩
  rw [importArchive, readable]

/-- Writes wait a minute for their commit. -/
def waiting : Config :=
  { Config.small with commitInterval := some 60 }

/-- A new index with that configuration. -/
def waitingIndex : Index :=
  ofSnapshot waiting (fun _ => .ok []) []

/-- A tree of one file. -/
def letterTree : FileTree :=
  ⟨[], [(["letter"], .file [0x61])]⟩

/-- Imports into the inbox. -/
def intoInbox : ImportTarget :=
  ⟨⟨"inbox"⟩, .empty, fun _ => .epoch⟩

/-- A letter comes, and no commit. -/
def pendingLetter : List Call :=
  [.add ⟨"inbox"⟩ emptyLetter]

/-- A letter comes and is committed. -/
def flushedLetter : List Call :=
  [.add ⟨"inbox"⟩ emptyLetter, .flush]

theorem keysFit_flushedLetter : waitingIndex.Brings Mailbox.KeysFit flushedLetter :=
  ⟨fits_inbox .flags emptyLetter.uid, trivial, trivial⟩

/-- The inbox has one message then, with the number 1. -/
theorem uids_pendingLetter {uid : Uid} :
    uid ∈ (waitingIndex.told (Snapshot.ledger []) pendingLetter).uids ⟨"inbox"⟩ ↔ uid = 1 := by
  have told : waitingIndex.told (Snapshot.ledger []) pendingLetter
      = Ledger.put (Snapshot.ledger []) ⟨"inbox"⟩ 1 ⟨.ofEvents emptyLetter [], .empty⟩ := rfl
  rw [told]
  constructor
  · rintro ⟨message, found⟩
    by_contra other
    rw [Ledger.put, if_neg (fun both => other both.2)] at found
    exact absurd found (by simp [Snapshot.ledger, Snapshot.documents])
  · rintro rfl
    exact ⟨_, if_pos ⟨rfl, rfl⟩⟩

theorem lt_lastUid_of_pendingLetter :
    ∀ uid ∈ (waitingIndex.told (Snapshot.ledger []) pendingLetter).uids ⟨"inbox"⟩, uid < lastUid := by
  intro uid listed
  rw [uids_pendingLetter.mp listed]
  decide

theorem spares_import_flushed :
    Spares (waitingIndex.told (Snapshot.ledger []) flushedLetter) ⟨"inbox"⟩
        ((waitingIndex.after flushedLetter).importFiles letterTree intoInbox none ["letter"])
      ∧ ((waitingIndex.after flushedLetter).importFiles letterTree intoInbox none ["letter"]).2
        = [.imported 2] := by
  have reached : (ofSnapshot waiting (fun _ => .ok []) []).after flushedLetter
      = waitingIndex.after flushedLetter := rfl
  have told : (ofSnapshot waiting (fun _ => .ok []) []).told (Snapshot.ledger []) flushedLetter
      = waitingIndex.told (Snapshot.ledger []) pendingLetter := rfl
  have shown : (waitingIndex.after flushedLetter).ShowsHighest intoInbox.mailbox := fun uid listed =>
    ⟨uid, listed, UInt64.le_refl uid⟩
  have spares := spares_import _ rfl Snapshot.sound_nil keysFit_flushedLetter reached rfl told
    lt_lastUid_of_pendingLetter (fun _ => shown) letterTree
  exact ⟨spares.1 ["letter"], by decide +kernel⟩

/-- A pending message is not seen by the import that comes after it, so its number is taken. -/
theorem import_takes_pending_uid :
    Snapshot.Sound [] ∧ waiting.validateNumbers = .ok () ∧ waitingIndex.Brings Mailbox.KeysFit pendingLetter
      ∧ (waitingIndex.after pendingLetter).isOpen = true
      ∧ (∀ uid ∈ (waitingIndex.told (Snapshot.ledger []) pendingLetter).uids ⟨"inbox"⟩, uid < lastUid)
      ∧ ((waitingIndex.after pendingLetter).importFiles letterTree intoInbox none ["letter"]).2 = [.imported 1]
      ∧ ¬ Spares (waitingIndex.told (Snapshot.ledger []) pendingLetter) ⟨"inbox"⟩
        ((waitingIndex.after pendingLetter).importFiles letterTree intoInbox none ["letter"]) := by
  have report : ((waitingIndex.after pendingLetter).importFiles letterTree intoInbox none ["letter"]).2
      = [.imported 1] := by
    decide +kernel
  refine ⟨Snapshot.sound_nil, rfl, ⟨keysFit_flushedLetter.1, trivial⟩, rfl, lt_lastUid_of_pendingLetter, report,
    fun spares => ?_⟩
  have above := spares.above 1 (uids_pendingLetter.mpr rfl) 1 (report ▸ List.mem_cons_self)
  exact UInt64.lt_irrefl 1 above

end Index

end Letterbox
