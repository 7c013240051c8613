import Letterbox.Proofs.ImportOrder

/-!
# Numbers within an import

Each message that can be read uses up a number, whether the index takes it or not. Main statements: the messages
of an import have numbers of their own, unless the last number of all is given twice, and are all there after a
flush; their numbers follow each other exactly if no message that the index refuses comes before one that it
takes.
-/

namespace Letterbox

theorem toNat_iterate_nextUid (count : Nat) (uid : Uid) :
    (nextUid^[count] uid).toNat = min (uid.toNat + count) lastUid.toNat := by
  induction count generalizing uid with
  | zero => exact (Nat.min_eq_left (toNat_le_lastUid uid)).symm
  | succ count ih =>
      rw [Function.iterate_succ_apply, ih, toNat_nextUid]
      omega

namespace ImportSource

/-- The bytes of a message are there; only then it uses up a number. -/
def isReadable (source : ImportSource) : Bool :=
  source.content.isOk

theorem isReadable_of_ok {source : ImportSource} {content : Bytes} (read : source.content = .ok content) :
    source.isReadable = true := by
  rw [isReadable, read]
  rfl

theorem isReadable_of_error {source : ImportSource} {fault : ImportFault} (missed : source.content = .error fault) :
    source.isReadable = false := by
  rw [isReadable, missed]
  rfl

end ImportSource

namespace ImportTarget

variable {source : ImportSource}

/-- The target after some sources: those that can be read are messages. -/
def afterSources (target : ImportTarget) (sources : List ImportSource) : ImportTarget :=
  target.afterAll (sources.filterMap (·.content.toOption))

theorem afterSources_cons_of_ok (target : ImportTarget) {content : Bytes} (read : source.content = .ok content)
    (rest : List ImportSource) :
    target.afterSources (source :: rest) = (target.after content).afterSources rest := by
  simp [afterSources, afterAll, read, Except.toOption]

theorem afterSources_cons_of_error (target : ImportTarget) {fault : ImportFault}
    (missed : source.content = .error fault) (rest : List ImportSource) :
    target.afterSources (source :: rest) = target.afterSources rest := by
  simp [afterSources, missed, Except.toOption]

theorem mailbox_afterSources (target : ImportTarget) (sources : List ImportSource) :
    (target.afterSources sources).mailbox = target.mailbox := by
  unfold afterSources afterAll
  induction sources.filterMap (·.content.toOption) generalizing target with
  | nil => rfl
  | cons content rest ih => exact ih (target.after content)

/-- A clock that stands still is the same after any sources. -/
theorem afterSources_of_still {target : ImportTarget} (still : target.clock.later = target.clock)
    (sources : List ImportSource) : target.afterSources sources = target := by
  have each : ∀ content, target.after content = target := by
    intro content
    rw [after, still, ite_self]
  unfold afterSources afterAll
  induction sources.filterMap (·.content.toOption) with
  | nil => rfl
  | cons content rest ih => rw [List.foldl_cons, each, ih]

end ImportTarget

namespace ImportReport

variable {report : ImportReport}

theorem mem_uids {uid : Uid} :
    uid ∈ report.uids ↔ ∃ place : Nat, report[place]? = some (.imported uid) := by
  rw [uids, List.mem_filterMap]
  simp only [← List.mem_iff_getElem?]
  constructor
  · rintro ⟨outcome, listed, given⟩
    cases outcome with
    | imported other =>
        obtain rfl := Option.some.inj given
        exact listed
    | failed fault => simp at given
  · exact fun listed => ⟨_, listed, rfl⟩

/-- Of numbers in strict order none is given again later. -/
theorem not_mem_uids_drop (strict : report.uids.Pairwise (· < ·)) {place : Nat} {uid : Uid}
    (reported : report[place]? = some (.imported uid)) : uid ∉ ImportReport.uids (report.drop (place + 1)) := by
  intro again
  rw [← List.take_append_drop (place + 1) report, uids, List.filterMap_append] at strict
  refine UInt64.lt_irrefl uid ((List.pairwise_append.mp strict).2.2 uid ?_ uid again)
  refine mem_uids.mpr ⟨place, ?_⟩
  rw [List.getElem?_take_of_lt (Nat.lt_succ_self place)]
  exact reported

/-- Two numbers are related as they come if those of any two places are. -/
theorem pairwise_uids {related : Uid → Uid → Prop}
    (places : ∀ (place later : Nat) (one other : Uid), place < later → report[place]? = some (.imported one) →
      report[later]? = some (.imported other) → related one other) :
    report.uids.Pairwise related := by
  rw [uids, List.pairwise_filterMap, List.pairwise_iff_getElem]
  intro place later here there before one given other taken
  refine places place later one other before ?_ ?_
  · rw [List.getElem?_eq_getElem here]
    cases outcome : report[place] with
    | imported uid =>
        rw [outcome] at given
        rw [Option.some.inj given]
    | failed fault => simp [outcome] at given
  · rw [List.getElem?_eq_getElem there]
    cases outcome : report[later] with
    | imported uid =>
        rw [outcome] at taken
        rw [Option.some.inj taken]
    | failed fault => simp [outcome] at taken

end ImportReport

namespace Index

variable {index next : Index} {target : ImportTarget} {uid new : Uid} {sources : List ImportSource} {place : Nat}

/-- An open index takes a message that can be read and that its decoder understands. -/
def takes (index : Index) (source : ImportSource) : Bool :=
  match source.content with
  | .ok content => index.isOpen && (index.decoder content).isOk
  | .error _ => false

/-- A message that can be read, but is not taken, uses up a number for nothing. -/
def refuses (index : Index) (source : ImportSource) : Bool :=
  source.isReadable && ! index.takes source

/-! ## One message -/

theorem takes_of_unreadable (index : Index) {source : ImportSource} {fault : ImportFault}
    (unreadable : source.content = .error fault) : index.takes source = false := by
  rw [takes, unreadable]

theorem takes_of_readable (index : Index) (target : ImportTarget) (uid : Uid) {source : ImportSource}
    {content : Bytes} (readable : source.content = .ok content) :
    index.takes source = (index.add target.mailbox (target.message uid content)).isOk := by
  have own : (target.message uid content).mailbox = target.mailbox := rfl
  have bytes : (target.message uid content).content = content := rfl
  simp only [takes, readable, add, own, ne_eq, not_true_eq_false, if_false, MessageDocuments.ofMessage,
    ContentDocument.ofMessage, bytes]
  cases decoded : index.decoder content with
  | error cause => exact Bool.and_false _
  | ok events =>
      simp only [put_eq]
      cases index.isOpen <;> rfl

theorem isReadable_of_takes {source : ImportSource} (taken : index.takes source = true) :
    source.isReadable = true := by
  unfold takes at taken
  cases readable : source.content with
  | ok content => exact ImportSource.isReadable_of_ok readable
  | error fault => simp [readable] at taken

theorem isOpen_of_takes {source : ImportSource} (taken : index.takes source = true) : index.isOpen = true := by
  unfold takes at taken
  split at taken
  · exact (Bool.and_eq_true_iff.mp taken).1
  · exact absurd taken Bool.false_ne_true

theorem takes_of_add {mailbox : Mailbox} {message : Message} (added : index.add mailbox message = .ok next) :
    next.takes = index.takes := by
  funext source
  rw [takes, takes, isOpen_of_add added, decoder_of_add added]

theorem refuses_of_add {mailbox : Mailbox} {message : Message} (added : index.add mailbox message = .ok next) :
    next.refuses = index.refuses := by
  funext source
  rw [refuses, refuses, takes_of_add added]

/-! ## The number of each message -/

/-- A message that the index takes has as many numbers before it as messages that can be read. -/
theorem getElem?_importFrom (index : Index) (target : ImportTarget) (uid : Uid) (sources : List ImportSource)
    (place : Nat) (new : Uid) :
    (index.importFrom target uid sources).2[place]? = some (.imported new)
      ↔ ∃ source, sources[place]? = some source ∧ index.takes source = true
        ∧ new = nextUid^[(sources.take place).countP ImportSource.isReadable] uid := by
  fun_induction index.importFrom target uid sources generalizing place with
  | case1 index target uid => simp
  | case2 index target uid source rest fault unreadable last report imported ih =>
      have untaken := index.takes_of_unreadable unreadable
      have unread : ¬ source.isReadable = true := by simp [ImportSource.isReadable_of_error unreadable]
      cases place with
      | zero => simp [untaken]
      | succ place =>
          rw [imported] at ih
          rw [List.getElem?_cons_succ, List.getElem?_cons_succ, List.take_succ_cons,
            List.countP_cons_of_neg unread, ih]
  | case3 index target uid source rest content readable cause refused last report imported ih =>
      have taken := index.takes_of_readable target uid readable
      have read := ImportSource.isReadable_of_ok readable
      rw [refused] at taken
      cases place with
      | zero => simp [taken, Except.isOk, Except.toBool]
      | succ place =>
          rw [imported] at ih
          rw [List.getElem?_cons_succ, List.getElem?_cons_succ, List.take_succ_cons,
            List.countP_cons_of_pos read, Function.iterate_succ_apply, ih]
  | case4 index target uid source rest content readable next added last report imported ih =>
      have taken := index.takes_of_readable target uid readable
      have read := ImportSource.isReadable_of_ok readable
      rw [added] at taken
      cases place with
      | zero => simpa [taken, Except.isOk, Except.toBool] using eq_comm
      | succ place =>
          rw [imported, takes_of_add added] at ih
          rw [List.getElem?_cons_succ, List.getElem?_cons_succ, List.take_succ_cons,
            List.countP_cons_of_pos read, Function.iterate_succ_apply, ih]

/-- An import gives a number exactly if the index takes some message. -/
theorem uids_importFrom_eq_nil (index : Index) (target : ImportTarget) (uid : Uid) (sources : List ImportSource) :
    (index.importFrom target uid sources).2.uids = [] ↔ ∀ source ∈ sources, index.takes source = false := by
  rw [List.eq_nil_iff_forall_not_mem]
  constructor
  · intro none source listed
    by_contra taken
    obtain ⟨place, found⟩ := List.mem_iff_getElem?.mp listed
    refine none _ (ImportReport.mem_uids.mpr ⟨place, (getElem?_importFrom ..).mpr ⟨source, found, ?_, rfl⟩⟩)
    simpa using taken
  · intro untaken new given
    obtain ⟨place, reported⟩ := ImportReport.mem_uids.mp given
    obtain ⟨source, found, taken, -⟩ := (getElem?_importFrom ..).mp reported
    rw [untaken source (List.mem_of_getElem? found)] at taken
    exact absurd taken Bool.false_ne_true

/-! ## Numbers in order -/

/-- A later place has more messages before it that can be read. -/
theorem countP_take_lt {source : ImportSource} {place later : Nat} (found : sources[place]? = some source)
    (read : source.isReadable = true) (before : place < later) :
    (sources.take place).countP ImportSource.isReadable < (sources.take later).countP ImportSource.isReadable := by
  have next : (sources.take (place + 1)).countP ImportSource.isReadable
      = (sources.take place).countP ImportSource.isReadable + 1 := by
    rw [List.take_add_one, found, List.countP_append]
    simp [read]
  have within : (sources.take (place + 1)).countP ImportSource.isReadable
      ≤ (sources.take later).countP ImportSource.isReadable :=
    (List.take_sublist_take_left before).countP_le
  omega

/-- With numbers enough for all messages that can be read, no number is given twice. -/
theorem strict_importFrom_of_enough (index : Index) (target : ImportTarget)
    (enough : uid.toNat + sources.countP ImportSource.isReadable ≤ lastUid.toNat + 1) :
    (index.importFrom target uid sources).2.uids.Pairwise (· < ·) := by
  refine ImportReport.pairwise_uids fun place later one other before given taken => ?_
  obtain ⟨source, found, first, rfl⟩ := (getElem?_importFrom ..).mp given
  obtain ⟨last, there, second, rfl⟩ := (getElem?_importFrom ..).mp taken
  have less := countP_take_lt found (isReadable_of_takes first) before
  have most := countP_take_lt there (isReadable_of_takes second) (List.getElem?_eq_some_iff.mp there).1
  rw [List.take_length] at most
  rw [UInt64.lt_iff_toNat_lt, toNat_iterate_nextUid, toNat_iterate_nextUid]
  omega

/-- The numbers follow each other exactly if nothing that is taken comes after something that is refused. -/
theorem consecutive_importFrom (room : uid.toNat + sources.length ≤ lastUid.toNat) :
    (index.importFrom target uid sources).2.uids.map UInt64.toNat
        = List.range' uid.toNat (index.importFrom target uid sources).2.uids.length
      ↔ sources.Pairwise fun earlier later => index.refuses earlier = true → index.takes later = false := by
  fun_induction index.importFrom target uid sources with
  | case1 index target uid => exact iff_of_true rfl .nil
  | case2 index target uid source rest fault unreadable last report imported ih =>
      rw [imported] at ih
      have accepts : index.refuses source = false := by simp [refuses, ImportSource.isReadable_of_error unreadable]
      simp only [List.pairwise_cons, accepts, Bool.false_eq_true, false_implies, implies_true, true_and]
      exact ih (by rw [List.length_cons] at room; omega)
  | case3 index target uid source rest content readable cause refused last report imported ih =>
      have untaken := index.takes_of_readable target uid readable
      rw [refused] at untaken
      have wastes : index.refuses source = true := by
        rw [refuses, ImportSource.isReadable_of_ok readable, untaken]
        rfl
      have none := uids_importFrom_eq_nil index (target.after content) (nextUid uid) rest
      rw [imported] at none
      simp only [List.pairwise_cons, wastes, forall_const]
      change report.uids.map UInt64.toNat = List.range' uid.toNat report.uids.length ↔ _
      cases given : report.uids with
      | nil =>
          -- nothing is taken any more, so nothing is taken after what is refused
          have later := none.mp given
          refine iff_of_true rfl ⟨later, List.pairwise_of_forall_mem_list fun _ _ other listed _ => ?_⟩
          exact later other listed
      | cons new others =>
          -- the first number of the others is above the one that was wasted
          have above : nextUid uid ≤ new :=
            le_of_mem_importFrom (by rw [imported, given]; exact List.mem_cons_self)
          rw [UInt64.le_iff_toNat_le, toNat_nextUid] at above
          rw [List.length_cons] at room
          refine iff_of_false (fun same => ?_) fun both => ?_
          · rw [List.map_cons, List.length_cons, List.range'_succ] at same
            have first := (List.cons.inj same).1
            omega
          · have empty := none.mpr both.1
            rw [given] at empty
            exact List.cons_ne_nil _ _ empty
  | case4 index target uid source rest content readable next added last report imported ih =>
      have taken := index.takes_of_readable target uid readable
      rw [added] at taken
      have accepts : index.refuses source = false := by
        rw [refuses, taken]
        exact Bool.and_false _
      rw [List.length_cons] at room
      have follows : (nextUid uid).toNat = uid.toNat + 1 := by
        rw [toNat_nextUid]
        omega
      rw [imported, refuses_of_add added, takes_of_add added, follows] at ih
      simp only [List.pairwise_cons, accepts, Bool.false_eq_true, false_implies, implies_true, true_and]
      change (uid :: report.uids).map UInt64.toNat = List.range' uid.toNat (report.uids.length + 1) ↔ _
      rw [List.map_cons, List.range'_succ, List.cons_inj_right]
      exact ih (by omega)

/-! ## The messages that were imported -/

/-- The entries of a message that was added. -/
theorem mem_written_of_add {message : Message} (added : index.add target.mailbox message = .ok next) :
    ∃ content, ContentDocument.ofMessage index.decoder message = .ok content
      ∧ ∀ document ∈ HeldMessage.documents ⟨content, message.flags⟩,
        Entry.ofDocument index.analysis document ∈ next.written := by
  obtain ⟨-, content, decoded, put⟩ := add_ok added
  obtain ⟨mailbox, number⟩ := ContentDocument.own_of_ofMessage decoded
  refine ⟨content, decoded, fun document listed => ?_⟩
  rw [(put_ok put).2, written_afterWrite]
  rcases List.mem_cons.mp listed with rfl | flags
  · exact mem_replace (mem_replace_self _ _ _) fun same =>
      DocumentKind.noConfusion (congrArg DocumentLabel.kind same)
  · rw [List.mem_singleton.mp flags, mailbox, number]
    exact mem_replace_self _ _ _

/-- A message that is added leaves the entries of all others. -/
theorem mem_written_of_add_apart {mailbox : Mailbox} {message : Message} {entry : Entry}
    (added : index.add mailbox message = .ok next) (listed : entry ∈ index.written)
    (apart : ¬ (entry.document.mailbox = mailbox ∧ entry.document.uid = message.uid)) :
    entry ∈ next.written := by
  obtain ⟨rfl, content, decoded, put⟩ := add_ok added
  obtain ⟨mailbox, number⟩ := ContentDocument.own_of_ofMessage decoded
  rw [(put_ok put).2, written_afterWrite]
  refine mem_replace (mem_replace listed fun same => apart ?_) fun same => apart ?_
  · obtain ⟨-, place, uid⟩ := DocumentLabel.mk.inj same
    exact ⟨place.trans mailbox, uid.trans number⟩
  · exact (DocumentLabel.mk.inj same).2

/-- An import leaves the entries of the messages with numbers that it does not give. -/
theorem mem_written_importFrom {entry : Entry} (listed : entry ∈ index.written)
    (apart : entry.document.mailbox = target.mailbox →
      entry.document.uid ∉ (index.importFrom target uid sources).2.uids) :
    entry ∈ (index.importFrom target uid sources).1.written := by
  fun_induction index.importFrom target uid sources with
  | case1 index target uid => exact listed
  | case2 index target uid source rest fault unreadable last report imported ih =>
      rw [imported] at ih
      exact ih listed apart
  | case3 index target uid source rest content readable cause refused last report imported ih =>
      rw [imported] at ih
      exact ih listed apart
  | case4 index target uid source rest content readable next added last report imported ih =>
      rw [imported] at ih
      refine ih (mem_written_of_add_apart added listed ?_) fun own given => ?_
      · rintro ⟨own, number⟩
        exact apart own (number ▸ List.mem_cons_self)
      · exact apart own (List.mem_cons_of_mem _ given)

/-- What the import of a message leaves, if its number is not given again. -/
theorem own_importFrom (reported : (index.importFrom target uid sources).2[place]? = some (.imported new))
    (once : new ∉ ImportReport.uids ((index.importFrom target uid sources).2.drop (place + 1))) :
    ∃ source bytes content, sources[place]? = some source ∧ source.content = .ok bytes
      ∧ ContentDocument.ofMessage index.decoder ((target.afterSources (sources.take place)).message new bytes)
        = .ok content
      ∧ ∀ document ∈ HeldMessage.documents ⟨content, target.flags⟩,
        Entry.ofDocument index.analysis document ∈ (index.importFrom target uid sources).1.written := by
  fun_induction index.importFrom target uid sources generalizing place with
  | case1 index target uid => simp at reported
  | case2 index target uid source rest fault unreadable last report imported ih =>
      rw [imported] at ih
      cases place with
      | zero => simp at reported
      | succ place =>
          rw [List.take_succ_cons, target.afterSources_cons_of_error unreadable]
          obtain ⟨other, found⟩ := ih reported once
          exact ⟨other, found⟩
  | case3 index target uid source rest content readable cause refused last report imported ih =>
      rw [imported] at ih
      cases place with
      | zero => simp at reported
      | succ place =>
          rw [List.take_succ_cons, target.afterSources_cons_of_ok readable]
          obtain ⟨other, found⟩ := ih reported once
          exact ⟨other, found⟩
  | case4 index target uid source rest content readable next added last report imported ih =>
      have analysis : next.analysis = index.analysis := by
        obtain ⟨-, document, -, put⟩ := add_ok added
        rw [(put_ok put).2, analysis_afterWrite]
      cases place with
      | zero =>
          obtain rfl : uid = new := by simpa using reported
          obtain ⟨document, decoded, written⟩ := mem_written_of_add added
          obtain ⟨mailbox, number⟩ := ContentDocument.own_of_ofMessage decoded
          refine ⟨source, content, document, rfl, readable, decoded, fun one listed => ?_⟩
          have later := @mem_written_importFrom next (target.after content) (nextUid uid) rest _ (written one listed)
          rw [imported] at later
          refine later fun _ given => once ?_
          have same : one.uid = uid := by
            rcases List.mem_cons.mp listed with rfl | flags
            · exact number
            · rw [List.mem_singleton.mp flags]
              exact number
          exact same ▸ given
      | succ place =>
          rw [imported, decoder_of_add added, analysis] at ih
          rw [List.take_succ_cons, target.afterSources_cons_of_ok readable]
          obtain ⟨other, found⟩ := ih reported once
          exact ⟨other, found⟩

/-- After an import that gave a number, what is not shown is pending. -/
theorem clean_importFrom
    (start : (index.isDirty = false → index.committed = index.written)
      ∨ (index.importFrom target uid sources).2.uids ≠ [])
    (clean : (index.importFrom target uid sources).1.isDirty = false) :
    (index.importFrom target uid sources).1.committed = (index.importFrom target uid sources).1.written := by
  fun_induction index.importFrom target uid sources with
  | case1 index target uid => exact start.elim (fun settled => settled clean) fun given => absurd rfl given
  | case2 index target uid source rest fault unreadable last report imported ih =>
      rw [imported] at ih
      exact ih start clean
  | case3 index target uid source rest content readable cause refused last report imported ih =>
      rw [imported] at ih
      exact ih start clean
  | case4 index target uid source rest content readable next added last report imported ih =>
      rw [imported] at ih
      refine ih (Or.inl fun settled => ?_) clean
      obtain ⟨-, document, -, put⟩ := add_ok added
      rw [(put_ok put).2] at settled ⊢
      exact clean_afterWrite _ _ settled

/-- The sources that files are. -/
def fileSources (files : FileTree) (paths : List String) : List ImportSource :=
  paths.map fun path => .file path (files.read path)

theorem importArchive_of_read {files : FileTree} {path : String} {archive : Bytes}
    (read : files.read path = .ok archive) (index : Index) (target : ImportTarget) :
    index.importArchive files target path
      = .ok (index.importFrom target (index.firstFreeUid target.mailbox)
        ((Archive.entries archive).map .entry)) := by
  rw [importArchive, read]

/-- What an import of some sources, from a first number on, makes of an index, and what it reports. -/
structure KeepsApart (index : Index) (target : ImportTarget) (first : Uid) (sources : List ImportSource)
    (result : Index × ImportReport) : Prop where
  /-- Its numbers ascend strictly, unless the last number of all is given twice. -/
  strict_iff : result.2.uids.Pairwise (· < ·) ↔ result.2.uids.count lastUid ≤ 1
  /-- That is never so if there are numbers enough for the messages that can be read. -/
  enough : first.toNat + sources.countP ImportSource.isReadable ≤ lastUid.toNat + 1 →
    result.2.uids.Pairwise (· < ·)
  /-- After a flush each message is there, and alone, under the number that is reported at its place. -/
  own : result.2.uids.Pairwise (· < ·) → ∀ (place : Nat) new, result.2[place]? = some (.imported new) →
    ∃ source bytes content last, sources[place]? = some source ∧ source.content = .ok bytes
      ∧ ContentDocument.ofMessage index.decoder ((target.afterSources (sources.take place)).message new bytes)
        = .ok content
      ∧ result.1.flush = .ok last
      ∧ (∀ document ∈ HeldMessage.documents ⟨content, target.flags⟩, document ∈ last.committed.documents)
      ∧ (Reachable index → (∀ uid ∈ result.2.uids, target.mailbox.KeysFit uid) →
        last.ledger target.mailbox new = some ⟨content, target.flags⟩)

theorem keepsApart_importFrom (index : Index) (target : ImportTarget) (first : Uid) (sources : List ImportSource) :
    KeepsApart index target first sources (index.importFrom target first sources) where
  strict_iff := by
    refine ⟨fun strict => ?_, strict_importFrom_of_count⟩
    exact List.nodup_iff_count_le_one.mp (strict.imp UInt64.ne_of_lt) lastUid
  enough := strict_importFrom_of_enough index target
  own := by
    intro strict place new reported
    obtain ⟨source, bytes, content, found, read, decoded, written⟩ :=
      own_importFrom reported (ImportReport.not_mem_uids_drop strict reported)
    obtain ⟨taken, present, takes, -⟩ := (getElem?_importFrom ..).mp reported
    have given : (index.importFrom target first sources).2.uids ≠ [] :=
      List.ne_nil_of_mem (ImportReport.mem_uids.mpr ⟨place, reported⟩)
    have flushed : (index.importFrom target first sources).1.flush
        = .ok (index.importFrom target first sources).1.commitPending := by
      rw [flush_eq, isOpen_importFrom, if_pos (isOpen_of_takes takes)]
    have shown : ∀ document ∈ HeldMessage.documents ⟨content, target.flags⟩,
        document ∈ (index.importFrom target first sources).1.commitPending.committed.documents := by
      intro document listed
      rw [committed_commitPending (clean_importFrom (Or.inr given))]
      exact List.mem_map.mpr ⟨_, written document listed, rfl⟩
    refine ⟨source, bytes, content, _, found, read, decoded, flushed, shown, fun reachable fits => ?_⟩
    have paired := ((reachable.imported fits).flushed flushed).kept.settled.committed.paired
    obtain ⟨own, number⟩ := ContentDocument.own_of_ofMessage decoded
    have mailbox : content.mailbox = target.mailbox := own.trans (target.mailbox_afterSources _)
    refine paired.ledger_eq_some.mpr ⟨⟨mailbox, number⟩, shown _ List.mem_cons_self, ?_⟩
    have flags := shown _ (List.mem_cons_of_mem _ (List.mem_singleton.mpr rfl))
    rw [mailbox, number] at flags
    exact flags

/--
The messages of an import, from files or from an archive, have numbers of their own and are there under these,
whatever the first number is, unless the last number of all is given twice.
-/
theorem keepsApart_import (index : Index) (files : FileTree) (target : ImportTarget) :
    (∀ (first : Option Uid) (paths : List String),
        KeepsApart index target (first.getD (index.firstFreeUid target.mailbox)) (fileSources files paths)
          (index.importFiles files target first paths))
      ∧ ∀ path archive, files.read path = .ok archive →
        ∃ result, index.importArchive files target path = .ok result
          ∧ KeepsApart index target (index.firstFreeUid target.mailbox) ((Archive.entries archive).map .entry)
            result := by
  refine ⟨fun first paths => keepsApart_importFrom .., fun path archive read => ?_⟩
  exact ⟨_, importArchive_of_read read index target, keepsApart_importFrom ..⟩

/-- A new index whose decoder understands all messages. -/
def plainIndex : Index :=
  ofSnapshot .small (fun _ => .ok []) []

/-- A tree of two letters, an empty file and an archive with an empty entry between two others. -/
def lettersTree : FileTree :=
  ⟨[], [(["first"], .file [0x61]), (["second"], .file [0x61, 0x62]), (["empty"], .file []),
    (["archive"], .file "From \n\nFrom \nFrom \n\n".toUTF8.toList)]⟩

/-- The two highest numbers are enough for two letters, and the second letter is there under the last one. -/
theorem keepsApart_import_top :
    let result := plainIndex.importFiles lettersTree intoInbox (some 0xFFFFFFFFFFFFFFFE) ["first", "second"]
    result.2 = [.imported 0xFFFFFFFFFFFFFFFE, .imported lastUid] ∧ result.2.uids.Pairwise (· < ·)
      ∧ ∃ content last,
        ContentDocument.ofMessage plainIndex.decoder (intoInbox.message lastUid [0x61, 0x62]) = .ok content
          ∧ result.1.flush = .ok last ∧ last.ledger ⟨"inbox"⟩ lastUid = some ⟨content, .empty⟩ := by
  intro result
  have report : result.2 = [.imported 0xFFFFFFFFFFFFFFFE, .imported lastUid] := by decide +kernel
  have apart := (keepsApart_import plainIndex lettersTree intoInbox).1 (some 0xFFFFFFFFFFFFFFFE) ["first", "second"]
  have strict := apart.enough (by decide +kernel)
  have reachable : Reachable plainIndex := .opened _ _ rfl
  have second : result.2[1]? = some (.imported lastUid) := by rw [report]; rfl
  obtain ⟨source, bytes, content, last, found, read, decoded, flushed, -, ledger⟩ := apart.own strict 1 lastUid second
  obtain rfl : ImportSource.file "second" (lettersTree.read "second") = source := Option.some.inj found
  rw [ImportTarget.afterSources_of_still rfl] at decoded
  obtain rfl : [0x61, 0x62] = bytes := by
    have bytes : (ImportSource.file "second" (lettersTree.read "second")).content = .ok [0x61, 0x62] := rfl
    exact Except.ok.inj (bytes.symm.trans read)
  exact ⟨report, strict, content, last, decoded, flushed, ledger reachable fun uid _ => fits_inbox .flags uid⟩

/-- From the last number on two letters have one number, and only the second one is there. -/
theorem import_repeats_last_uid :
    let result := plainIndex.importFiles lettersTree intoInbox (some lastUid) ["first", "second"]
    result.2 = [.imported lastUid, .imported lastUid] ∧ ¬ result.2.uids.Pairwise (· < ·)
      ∧ (result.1.flush.toOption.bind fun last => last.ledger ⟨"inbox"⟩ lastUid).map (·.content.size) = some 2 := by
  decide +kernel

/-- How an import from a first number on numbers the messages of its sources. -/
structure NumbersInTurn (index : Index) (first : Uid) (sources : List ImportSource) (report : ImportReport) :
    Prop where
  /-- A message is imported if the index takes it. Its number counts the messages before it that can be read. -/
  place : ∀ (place : Nat) new, report[place]? = some (.imported new)
    ↔ ∃ source, sources[place]? = some source ∧ index.takes source = true
      ∧ new.toNat = first.toNat + (sources.take place).countP ImportSource.isReadable
  /-- The numbers follow each other if no message that is refused comes before one that is taken. -/
  consecutive : report.uids.map UInt64.toNat = List.range' first.toNat report.uids.length
    ↔ sources.Pairwise fun earlier later => index.refuses earlier = true → index.takes later = false

theorem numbersInTurn_importFrom (index : Index) (target : ImportTarget) {first : Uid} {sources : List ImportSource}
    (room : first.toNat + sources.length ≤ lastUid.toNat) :
    NumbersInTurn index first sources (index.importFrom target first sources).2 where
  place := by
    intro place new
    have counted : (sources.take place).countP ImportSource.isReadable ≤ sources.length :=
      List.countP_le_length.trans (List.take_sublist place sources).length_le
    have number : (nextUid^[(sources.take place).countP ImportSource.isReadable] first).toNat
        = first.toNat + (sources.take place).countP ImportSource.isReadable := by
      rw [toNat_iterate_nextUid]
      omega
    rw [getElem?_importFrom, ← number]
    simp only [UInt64.toNat_inj]
  consecutive := consecutive_importFrom room

/--
With numbers enough, the messages of an import, from files or from an archive, are numbered one after the other
in their order exactly if no message that can be read but is not taken comes before one that is taken.
-/
theorem numbersInTurn_import (index : Index) (files : FileTree) (target : ImportTarget) :
    (∀ (first : Option Uid) (paths : List String),
        (first.getD (index.firstFreeUid target.mailbox)).toNat + paths.length < lastUid.toNat →
          NumbersInTurn index (first.getD (index.firstFreeUid target.mailbox)) (fileSources files paths)
            (index.importFiles files target first paths).2)
      ∧ ∀ path archive, files.read path = .ok archive →
        (index.firstFreeUid target.mailbox).toNat + (Archive.entries archive).length < lastUid.toNat →
          ∃ result, index.importArchive files target path = .ok result
            ∧ NumbersInTurn index (index.firstFreeUid target.mailbox) ((Archive.entries archive).map .entry)
              result.2 := by
  refine ⟨fun first paths room => numbersInTurn_importFrom index target ?_, fun path archive read room => ?_⟩
  · rw [fileSources, List.length_map]
    exact Nat.le_of_lt room
  · refine ⟨_, importArchive_of_read read index target, numbersInTurn_importFrom index target ?_⟩
    rw [List.length_map]
    exact Nat.le_of_lt room

/-- A file that is not there, or an empty entry of an archive, leaves no gap in the numbers. -/
theorem numbersInTurn_import_between :
    10 + 3 < lastUid.toNat
      ∧ (plainIndex.importFiles lettersTree intoInbox (some 10) ["first", "missing", "second"]).2.uids.map
          UInt64.toNat = [10, 11]
      ∧ ∃ result, plainIndex.importArchive lettersTree intoInbox "archive" = .ok result
        ∧ result.2.length = 3 ∧ result.2.uids.map UInt64.toNat = [1, 2] := by
  have turn := numbersInTurn_import plainIndex lettersTree intoInbox
  have files := turn.1 (some 10) ["first", "missing", "second"] (by decide)
  refine ⟨by decide, files.consecutive.mpr (by decide +kernel), ?_⟩
  obtain ⟨result, done, archive⟩ := turn.2 "archive" _ rfl (by decide +kernel)
  have sizes : (plainIndex.importArchive lettersTree intoInbox "archive").map
      (fun result => (result.2.length, result.2.uids.length)) = .ok (3, 2) := by
    decide +kernel
  rw [done] at sizes
  obtain ⟨length, count⟩ := Prod.mk.inj (Except.ok.inj sizes)
  have start : plainIndex.firstFreeUid intoInbox.mailbox = 1 := by decide +kernel
  have numbers := archive.consecutive.mpr (by decide +kernel)
  rw [count, start] at numbers
  exact ⟨result, done, length, numbers⟩

/-- A letter that the decoder does not understand leaves a gap in the numbers. -/
theorem import_skips_refused_uid :
    let index := ofSnapshot .small Mime.readEvents []
    let uids := (index.importFiles lettersTree intoInbox none ["first", "empty", "second"]).2.uids
    (index.firstFreeUid ⟨"inbox"⟩).toNat + 3 < lastUid.toNat ∧ uids = [1, 3]
      ∧ ¬ uids.map UInt64.toNat = List.range' (index.firstFreeUid ⟨"inbox"⟩).toNat uids.length := by
  decide +kernel

end Index

end Letterbox
