import Letterbox.Proofs.ArchiveSplit
import Letterbox.Proofs.ImportNumbers

/-!
# Accounts of imports

An account of an import counts its messages and lists numbers and failures as the messages come. Main statement:
the counts agree with each other, with the lists and with the messages there are, failures are listed in the order
of their places, and the numbers are, in turn, those under which the messages at all other places were added.
-/

namespace Letterbox

/-! ## What an account tells -/

namespace ImportAccount

variable {account : ImportAccount} {report : ImportReport} {place : Nat}

/-- The places of the messages that are not listed as failed. -/
def taken (account : ImportAccount) : List Nat :=
  (List.range account.total).filter fun place => place ∉ account.faults.map Prod.fst

/-- An account tells what became of each message of a report. -/
structure Tells (account : ImportAccount) (report : ImportReport) : Prop where
  total : account.total = report.length
  sum : account.total = account.success + account.failed
  success : account.uids.length = account.success
  failed : account.faults.length = account.failed
  increasing : account.faults.Pairwise fun one other => one.1 < other.1
  inside : ∀ fault ∈ account.faults, fault.1 < account.total
  /-- What is listed as failed, and nothing else, failed at its place. -/
  faults : ∀ place fault, (place, fault) ∈ account.faults ↔ report[place]? = some (.failed fault)
  /-- At the other places are the messages with the numbers that are listed, in turn. -/
  uids : account.taken.map (report[·]?) = account.uids.map fun uid => some (.imported uid)

theorem tells_empty : Tells empty [] where
  total := rfl
  sum := rfl
  success := rfl
  failed := rfl
  increasing := .nil
  inside := by simp [empty]
  faults := by simp [empty]
  uids := rfl

theorem lt_total_of_mem_taken (listed : place ∈ account.taken) : place < account.total :=
  List.mem_range.mp (List.mem_filter.mp listed).1

theorem getElem?_concat_eq_some {outcome other : ImportOutcome} :
    (report ++ [outcome])[place]? = some other
      ↔ report[place]? = some other ∨ place = report.length ∧ outcome = other := by
  rcases Nat.lt_trichotomy place report.length with inside | rfl | beyond
  · simp [List.getElem?_append_left inside, Nat.ne_of_lt inside]
  · simp
  · have apart := Nat.ne_of_gt beyond
    rw [List.getElem?_eq_none (by simpa using beyond), List.getElem?_eq_none (Nat.le_of_lt beyond)]
    simp [apart]

namespace Tells

variable (tells : Tells account report)

include tells

theorem length_not_mem : report.length ∉ account.faults.map Prod.fst := by
  intro listed
  obtain ⟨fault, found, place⟩ := List.mem_map.mp listed
  have inside := tells.inside fault found
  rw [tells.total, place] at inside
  exact Nat.lt_irrefl _ inside

/-- What follows does not change what became of the messages that were taken before it. -/
theorem map_taken_concat (outcome : ImportOutcome) :
    account.taken.map ((report ++ [outcome])[·]?) = account.uids.map fun uid => some (.imported uid) := by
  rw [← tells.uids]
  refine List.map_congr_left fun place listed => ?_
  have inside := lt_total_of_mem_taken listed
  rw [tells.total] at inside
  exact List.getElem?_append_left inside

theorem taken_imported (uid : Uid) :
    (account.record report.length (.imported uid)).taken = account.taken ++ [report.length] := by
  have last := tells.length_not_mem
  simp only [taken, record, List.range_succ, List.filter_append, tells.total]
  congr 1
  simpa using last

theorem taken_failed (fault : ImportFault) :
    (account.record report.length (.failed fault)).taken = account.taken := by
  have before : ∀ place ∈ List.range report.length,
      decide (place ∉ (account.faults ++ [(report.length, fault)]).map Prod.fst)
        = decide (place ∉ account.faults.map Prod.fst) := by
    intro place inside
    have other := Nat.ne_of_lt (List.mem_range.mp inside)
    simp [other]
  simp only [taken, ImportAccount.record, List.range_succ, List.filter_append, tells.total,
    List.filter_congr before]
  simp

/-- The account goes on with a message that has a number. -/
theorem imported (uid : Uid) :
    Tells (account.record report.length (.imported uid)) (report ++ [.imported uid]) where
  total := by simp [ImportAccount.record, tells.total]
  sum := by simp only [ImportAccount.record, tells.sum, Nat.add_right_comm]
  success := by simp [ImportAccount.record, tells.success]
  failed := tells.failed
  increasing := tells.increasing
  inside := fun fault listed => Nat.lt_succ_of_lt (tells.inside fault listed)
  faults := by
    intro place fault
    rw [getElem?_concat_eq_some, ← tells.faults]
    simp [ImportAccount.record]
  uids := by
    rw [tells.taken_imported, List.map_append, tells.map_taken_concat, ImportAccount.record, List.map_append]
    simp

/-- The account goes on with a message that failed. -/
theorem missed (fault : ImportFault) :
    Tells (account.record report.length (.failed fault)) (report ++ [.failed fault]) where
  total := by simp [ImportAccount.record, tells.total]
  sum := by simp only [ImportAccount.record, tells.sum, Nat.add_assoc]
  success := tells.success
  failed := by simp [ImportAccount.record, tells.failed]
  increasing := by
    refine List.pairwise_append.mpr ⟨tells.increasing, List.pairwise_singleton _ _, ?_⟩
    intro earlier listed last own
    rw [List.mem_singleton.mp own, ← tells.total]
    exact tells.inside earlier listed
  inside := by
    intro other listed
    rcases List.mem_append.mp listed with before | own
    · exact Nat.lt_succ_of_lt (tells.inside other before)
    · rw [List.mem_singleton.mp own, ← tells.total]
      exact Nat.lt_succ_self _
  faults := by
    intro place other
    rw [getElem?_concat_eq_some, ← tells.faults]
    simp [ImportAccount.record, eq_comm]
  uids := by
    rw [tells.taken_failed, tells.map_taken_concat]
    rfl

/-- An account goes on with the next message. -/
theorem record (outcome : ImportOutcome) : Tells (account.record report.length outcome) (report ++ [outcome]) := by
  cases outcome with
  | imported uid => exact tells.imported uid
  | failed fault => exact tells.missed fault

/-- An account goes on with all further messages. -/
theorem recordAll (rest : ImportReport) : Tells (account.recordAll report.length rest) (report ++ rest) := by
  induction rest generalizing account report with
  | nil =>
      rw [List.append_nil]
      exact tells
  | cons outcome rest ih =>
      have further := ih (tells.record outcome)
      rwa [List.length_append, List.length_singleton, List.append_assoc] at further

/-- Each number is that of a message at a place that is not listed as failed, the first one first. -/
theorem exists_place {turn : Nat} {uid : Uid} (listed : account.uids[turn]? = some uid) :
    ∃ place, account.taken[turn]? = some place ∧ report[place]? = some (.imported uid) := by
  have same := congrArg (·[turn]?) tells.uids
  simp only [List.getElem?_map, listed, Option.map_some] at same
  obtain ⟨place, found, reported⟩ := Option.map_eq_some_iff.mp same
  exact ⟨place, found, reported⟩

theorem length_taken : account.taken.length = account.uids.length := by
  have same := congrArg List.length tells.uids
  rwa [List.length_map, List.length_map] at same

theorem exists_fault_iff : place ∈ account.faults.map Prod.fst ↔ ∃ fault, report[place]? = some (.failed fault) := by
  simp [tells.faults]

end Tells

theorem tells_account (report : ImportReport) : Tells report.account report :=
  tells_empty.recordAll report

theorem uids_recordAll (account : ImportAccount) (place : Nat) (report : ImportReport) :
    (account.recordAll place report).uids = account.uids ++ report.uids := by
  induction report generalizing account place with
  | nil => exact (List.append_nil _).symm
  | cons outcome rest ih =>
      rw [recordAll, ih]
      cases outcome with
      | imported uid => exact List.append_assoc account.uids [uid] (ImportReport.uids rest)
      | failed fault => rfl

/-- An account lists the numbers of the report. -/
@[simp]
theorem uids_account (report : ImportReport) : report.account.uids = report.uids := by
  rw [ImportReport.account, uids_recordAll, empty, List.nil_append]

end ImportAccount

/-! ## Imports -/

namespace Index

variable {index : Index} {target : ImportTarget} {uid : Uid} {sources : List ImportSource} {place : Nat}

theorem length_importFrom (index : Index) (target : ImportTarget) (uid : Uid) (sources : List ImportSource) :
    (index.importFrom target uid sources).2.length = sources.length := by
  fun_induction index.importFrom target uid sources with
  | case1 index target uid => rfl
  | case2 index target uid source rest fault unreadable last report imported ih =>
      rw [imported] at ih
      exact congrArg Nat.succ ih
  | case3 index target uid source rest content readable cause refused last report imported ih =>
      rw [imported] at ih
      exact congrArg Nat.succ ih
  | case4 index target uid source rest content readable next added last report imported ih =>
      rw [imported] at ih
      exact congrArg Nat.succ ih

/-- A number is reported for a message at the place at which it was added under this number. -/
theorem added_of_imported {new : Uid}
    (reported : (index.importFrom target uid sources).2[place]? = some (.imported new)) :
    ∃ source content, sources[place]? = some source ∧ source.content = .ok content
      ∧ (index.importFrom target uid (sources.take place)).1.add target.mailbox
          ((target.afterSources (sources.take place)).message new content)
        = .ok (index.importFrom target uid (sources.take (place + 1))).1 := by
  fun_induction index.importFrom target uid sources generalizing place with
  | case1 index target uid => simp at reported
  | case2 index target uid source rest fault unreadable last report imported ih =>
      rw [imported] at ih
      cases place with
      | zero => simp at reported
      | succ place =>
          obtain ⟨other, content, found, read, added⟩ := ih reported
          refine ⟨other, content, found, read, ?_⟩
          simpa only [List.take_succ_cons, importFrom, unreadable, target.afterSources_cons_of_error unreadable]
            using added
  | case3 index target uid source rest content readable cause refused last report imported ih =>
      rw [imported] at ih
      cases place with
      | zero => simp at reported
      | succ place =>
          obtain ⟨other, content, found, read, added⟩ := ih reported
          refine ⟨other, content, found, read, ?_⟩
          simpa only [List.take_succ_cons, importFrom, readable, refused, target.afterSources_cons_of_ok readable,
            ImportTarget.mailbox_after] using added
  | case4 index target uid source rest content readable next added last report imported ih =>
      rw [imported] at ih
      cases place with
      | zero =>
          obtain rfl : uid = new := by simpa using reported
          refine ⟨source, content, rfl, readable, ?_⟩
          have first : target.afterSources ([] : List ImportSource) = target := rfl
          simp only [List.take_zero, List.take_succ_cons, importFrom, readable, added, first]
      | succ place =>
          obtain ⟨other, content, found, read, later⟩ := ih reported
          refine ⟨other, content, found, read, ?_⟩
          simpa only [List.take_succ_cons, importFrom, readable, added, target.afterSources_cons_of_ok readable,
            ImportTarget.mailbox_after] using later

/-- A message fails exactly if the index does not take it, whatever becomes of the others. -/
theorem exists_failed_iff (index : Index) (target : ImportTarget) (uid : Uid) (sources : List ImportSource)
    (place : Nat) :
    (∃ fault, (index.importFrom target uid sources).2[place]? = some (.failed fault))
      ↔ ∃ source, sources[place]? = some source ∧ index.takes source = false := by
  have length := length_importFrom index target uid sources
  have taken := getElem?_importFrom index target uid sources place
  cases outcome : (index.importFrom target uid sources).2[place]? with
  | none =>
      have beyond := List.getElem?_eq_none_iff.mp outcome
      rw [length] at beyond
      simp [List.getElem?_eq_none beyond]
  | some found =>
      have inside := (List.getElem?_eq_some_iff.mp outcome).1
      rw [length] at inside
      rw [List.getElem?_eq_getElem inside] at taken ⊢
      rw [outcome] at taken
      cases found with
      | imported new =>
          obtain ⟨source, present, takes, -⟩ := (taken new).mp rfl
          obtain rfl := Option.some.inj present
          simp [takes]
      | failed fault =>
          have untaken : index.takes sources[place] = false := by
            rw [← Bool.not_eq_true]
            intro takes
            have number := (taken _).mpr ⟨_, rfl, takes, rfl⟩
            exact ImportOutcome.noConfusion (Option.some.inj number)
          simp [untaken]

end Index

/-! ## Entries of archives -/

namespace Archive

/-- Where the rest of a file starts behind what the reader yields. -/
def restStart (start : Nat) (found : List Yield) : Nat :=
  (found.getLast?.map Yield.next).getD start

/-- The entries of a file are those that the reader yields, and the rest of the file unless it is blank. -/
theorem length_entriesRead (archive : Bytes) (start : Nat) (found : List Yield) :
    (entriesRead archive start found).length
      = found.length + if (archive.drop (restStart start found)).all isBlank then 0 else 1 := by
  induction found generalizing start with
  | nil =>
      rw [entriesRead, apply_ite List.length, List.length_nil, List.length_nil, Nat.zero_add]
      rfl
  | cons yielded rest ih =>
      have behind : restStart start (yielded :: rest) = restStart yielded.next rest := by
        cases rest with
        | nil => rfl
        | cons next later => simp [restStart, List.getLast?_cons]
      rw [entriesRead, List.length_cons, ih, behind, List.length_cons, Nat.add_right_comm]

/-- Up to the next separator there is none to count. -/
theorem countP_dropWhile_isSeparator (rows : List Bytes) :
    (rows.dropWhile (! isSeparator ·)).countP isSeparator = rows.countP isSeparator := by
  have none : (rows.takeWhile (! isSeparator ·)).countP isSeparator = 0 := by
    refine List.countP_eq_zero.mpr fun row listed => ?_
    simpa using List.mem_takeWhile_imp listed
  conv_rhs => rw [← List.takeWhile_append_dropWhile (p := (! isSeparator ·)) (l := rows)]
  rw [List.countP_append, none, Nat.zero_add]

/-- The reader yields an entry for each separator line behind the first line. -/
theorem length_yields (offset : Nat) (rows : List Bytes) :
    (yields (stretches offset rows)).length = rows.tail.countP isSeparator := by
  induction offset, rows using stretches.induct with
  | case1 offset => simp [stretches, yields]
  | case2 offset line rest stretch ih =>
      rw [stretches, List.tail_cons, ← countP_dropWhile_isSeparator]
      cases next : rest.dropWhile (! isSeparator ·) with
      | nil => simp [stretches, yields]
      | cons opening more =>
          have opens : isSeparator opening = true := by
            have stops := List.head?_dropWhile_not (! isSeparator ·) rest
            rw [next] at stops
            simpa using stops
          rw [next, stretches] at ih
          rw [stretches, yields, List.length_cons, List.countP_cons_of_pos opens]
          exact congrArg Nat.succ ih

end Archive

namespace Index

/-- The account of an import of some sources from a first number on. -/
structure AccountsFor (index : Index) (target : ImportTarget) (first : Uid) (sources : List ImportSource)
    (account : ImportAccount) : Prop where
  total : account.total = sources.length
  sum : account.total = account.success + account.failed
  success : account.uids.length = account.success
  failed : account.faults.length = account.failed
  increasing : account.faults.Pairwise fun one other => one.1 < other.1
  inside : ∀ fault ∈ account.faults, fault.1 < account.total
  /-- A message is listed as failed if the index does not take it, whatever becomes of the others. -/
  fails : ∀ place, place ∈ account.faults.map Prod.fst
    ↔ ∃ source, sources[place]? = some source ∧ index.takes source = false
  /-- There are as many numbers as other messages, and each was added, in its turn, under its number. -/
  numbers : account.taken.length = account.uids.length
  added : ∀ (turn : Nat) uid, account.uids[turn]? = some uid → ∃ place source content,
    account.taken[turn]? = some place ∧ sources[place]? = some source ∧ source.content = .ok content
      ∧ (index.importFrom target first (sources.take place)).1.add target.mailbox
          ((target.afterSources (sources.take place)).message uid content)
        = .ok (index.importFrom target first (sources.take (place + 1))).1

theorem accountsFor_importFrom (index : Index) (target : ImportTarget) (first : Uid) (sources : List ImportSource) :
    AccountsFor index target first sources (index.importFrom target first sources).2.account := by
  have tells := ImportAccount.tells_account (index.importFrom target first sources).2
  refine ⟨tells.total.trans (length_importFrom ..), tells.sum, tells.success, tells.failed, tells.increasing,
    tells.inside, fun place => ?_, tells.length_taken, fun turn uid listed => ?_⟩
  · rw [tells.exists_fault_iff, exists_failed_iff]
  · obtain ⟨place, found, reported⟩ := tells.exists_place listed
    obtain ⟨source, content, present, read, added⟩ := added_of_imported reported
    exact ⟨place, source, content, found, present, read, added⟩

/--
The account of an import, on any index, open or closed. Of files all are counted. Of an archive the separator lines
behind the first line are counted, one entry before each, and what is behind the last one unless it is blank.
-/
theorem accountsFor_import (index : Index) (files : FileTree) (target : ImportTarget) :
    (∀ (first : Option Uid) (paths : List String),
        AccountsFor index target (first.getD (index.firstFreeUid target.mailbox)) (fileSources files paths)
            (index.importFiles files target first paths).2.account
          ∧ (index.importFiles files target first paths).2.account.total = paths.length)
      ∧ ∀ path archive, files.read path = .ok archive →
        ∃ result, index.importArchive files target path = .ok result
          ∧ AccountsFor index target (index.firstFreeUid target.mailbox) ((Archive.entries archive).map .entry)
            result.2.account
          ∧ ∃ found, found = Archive.yields (Archive.stretches 0 (Archive.lines archive))
            ∧ found.length = (Archive.lines archive).tail.countP Archive.isSeparator
            ∧ result.2.account.total
              = found.length + if (archive.drop (Archive.restStart 0 found)).all Archive.isBlank then 0 else 1 := by
  refine ⟨fun first paths => ?_, fun path archive read => ?_⟩
  · have accounts := accountsFor_importFrom index target (first.getD (index.firstFreeUid target.mailbox))
      (fileSources files paths)
    exact ⟨accounts, accounts.total.trans (List.length_map _)⟩
  · have accounts := accountsFor_importFrom index target (index.firstFreeUid target.mailbox)
      ((Archive.entries archive).map .entry)
    refine ⟨_, importArchive_of_read read index target, accounts, _, rfl, Archive.length_yields .., ?_⟩
    rw [accounts.total, List.length_map, ← Archive.entriesRead_eq, Archive.length_entriesRead]

/-- The empty entry between the two others fails at its place, and leaves their numbers and places alone. -/
theorem accountsFor_import_between :
    lettersTree.read "archive" = .ok "From \n\nFrom \nFrom \n\n".toUTF8.toList
      ∧ ∃ result, plainIndex.importArchive lettersTree intoInbox "archive" = .ok result
        ∧ result.2.account.total = 3 ∧ result.2.account.success + result.2.account.failed = 3
        ∧ result.2.account.faults.map Prod.fst = [1] ∧ result.2.account.uids = [1, 2]
        ∧ result.2.account.taken = [0, 2] := by
  have read : lettersTree.read "archive" = .ok "From \n\nFrom \nFrom \n\n".toUTF8.toList := by rfl
  obtain ⟨result, done, accounts, found, rfl, count, total⟩ :=
    (accountsFor_import plainIndex lettersTree intoInbox).2 "archive" _ read
  have lists : (plainIndex.importArchive lettersTree intoInbox "archive").map
      (fun result => (result.2.account.faults.map Prod.fst, result.2.account.uids, result.2.account.taken))
        = .ok ([1], [1, 2], [0, 2]) := by
    decide +kernel
  rw [done] at lists
  obtain ⟨faults, rest⟩ := Prod.mk.inj (Except.ok.inj lists)
  obtain ⟨uids, taken⟩ := Prod.mk.inj rest
  have all : result.2.account.total = 3 := by
    rw [total]
    decide +kernel
  exact ⟨read, result, done, all, accounts.sum ▸ all, faults, uids, taken⟩

end Index

end Letterbox
