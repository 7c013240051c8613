import Letterbox.Proofs.Calls
import Mathlib

/-!
# Deferred commits

With a commit interval writes become visible at commit points only. Main statement: at each moment such an
index shows what an index that commits at once shows after the calls before the last commit point, and all
calls have the same answers on both.
-/

namespace Letterbox

/-- A call on an index. A commit that was asked for counts when it is made. -/
inductive Operation where
  | add (mailbox : Mailbox) (message : Message)
  | update (mailbox : Mailbox) (range : UidRange) (flags : Flags)
  | delete (mailbox : Mailbox) (range : UidRange)
  | flush
  | requestCommit
  | close

namespace Operation

/-- A call after whose success all that came before it is visible. -/
def isCommitPoint : Operation → Bool
  | add _ _ | delete _ _ => false
  | update _ _ _ | flush | requestCommit | close => true

/-- A call that needs an open index. -/
def needsOpen : Operation → Bool
  | add _ _ | update _ _ _ | delete _ _ | flush => true
  | requestCommit | close => false

end Operation

/-- The answer to a call: an update tells how many messages it found. -/
abbrev Answer := Except Failure (Option Nat)

namespace Index

/-- The index after a call, and the answer to it. A call that fails changes nothing. -/
def apply (index : Index) : Operation → Index × Answer
  | .add mailbox message =>
    match index.add mailbox message with
    | .ok next => (next, .ok none)
    | .error failure => (index, .error failure)
  | .update mailbox range flags =>
    match index.update mailbox range flags with
    | .ok (next, count) => (next, .ok (some count))
    | .error failure => (index, .error failure)
  | .delete mailbox range =>
    match index.delete mailbox range with
    | .ok next => (next, .ok none)
    | .error failure => (index, .error failure)
  | .flush =>
    match index.flush with
    | .ok next => (next, .ok none)
    | .error failure => (index, .error failure)
  | .requestCommit => (index.requestCommit, .ok none)
  | .close => (index.close, .ok none)

/-- The index after some calls. -/
def run (index : Index) (operations : List Operation) : Index :=
  operations.foldl (fun index operation => (index.apply operation).1) index

/-- The answers to some calls. -/
def answers (index : Index) : List Operation → List Answer
  | [] => []
  | operation :: rest => (index.apply operation).2 :: (index.apply operation).1.answers rest

/-- A call makes all that came before it visible. -/
def commitsBy (index : Index) (operation : Operation) : Bool :=
  operation.isCommitPoint && (index.apply operation).2.isOk

/-- How many calls came before the last commit point, given how many came before and were covered. -/
def covered (index : Index) (seen before : Nat) : List Operation → Nat
  | [] => before
  | operation :: rest =>
    (index.apply operation).1.covered (seen + 1) (if index.commitsBy operation then seen else before) rest

theorem run_append (index : Index) (first second : List Operation) :
    index.run (first ++ second) = (index.run first).run second :=
  List.foldl_append

/-- One more call moves the last commit point if it is one. -/
theorem covered_append (index : Index) (seen before : Nat) (operations : List Operation)
    (operation : Operation) :
    index.covered seen before (operations ++ [operation])
      = if (index.run operations).commitsBy operation then seen + operations.length
        else index.covered seen before operations := by
  induction operations generalizing index seen before with
  | nil => rfl
  | cons first rest ih =>
      rw [List.cons_append, covered, ih, List.length_cons, Nat.add_assoc, Nat.add_comm 1]
      rfl

theorem covered_le (index : Index) {seen before : Nat} (le : before ≤ seen) (operations : List Operation) :
    index.covered seen before operations ≤ seen + operations.length := by
  induction operations generalizing index seen before with
  | nil => exact le
  | cons operation rest ih =>
      rw [covered, List.length_cons, Nat.add_comm rest.length, ← Nat.add_assoc]
      refine ih _ ?_
      split <;> omega

/-! ## One index behind another -/

/-- An index that defers its commits has the writes of one that does not; what it shows may lag behind. -/
structure Trails (deferred immediate : Index) : Prop where
  analysis : deferred.analysis = immediate.analysis
  maxResults : deferred.config.maxResults = immediate.config.maxResults
  decoder : deferred.decoder = immediate.decoder
  defers : deferred.config.commitsAtOnce = false
  atOnce : immediate.config.commitsAtOnce = true
  isOpen : deferred.isOpen = immediate.isOpen
  written : deferred.written = immediate.written
  shown : immediate.committed = immediate.written
  tidy : immediate.isDirty = false
  clean : deferred.isDirty = false → deferred.committed = deferred.written
  closed : deferred.isOpen = false → deferred.isDirty = false

theorem trails_ofSnapshot (config : Config) (seconds : Nat) (decoder : Mime.Decoder)
    (snapshot : Snapshot) :
    Trails (ofSnapshot { config with commitInterval := some seconds } decoder snapshot)
      (ofSnapshot { config with commitInterval := none } decoder snapshot) := by
  constructor <;> first | rfl | exact fun _ => rfl

namespace Trails

variable {deferred immediate : Index}

/-- Without pending writes both show the same. -/
theorem committed_of_clean (trails : deferred.Trails immediate) (clean : deferred.isDirty = false) :
    deferred.committed = immediate.committed := by
  rw [trails.clean clean, trails.written, trails.shown]

/-- Commits bring the index level with the other one. -/
theorem committed_commitPending (trails : deferred.Trails immediate) :
    deferred.commitPending.committed = immediate.committed := by
  rw [Index.committed_commitPending trails.clean, trails.written, trails.shown]

theorem commitPending (trails : deferred.Trails immediate) : deferred.commitPending.Trails immediate := by
  unfold Index.commitPending
  split
  · exact { trails with clean := fun _ => rfl, closed := fun _ => rfl }
  · exact trails

theorem commitPending_immediate (trails : deferred.Trails immediate) :
    immediate.commitPending = immediate :=
  commitPending_of_clean trails.tidy

/-- A write is made on both. -/
theorem afterWrite (trails : deferred.Trails immediate) (isOpen : deferred.isOpen = true)
    (written : Snapshot) : (deferred.afterWrite written).Trails (immediate.afterWrite written) := by
  rw [Index.afterWrite, Index.afterWrite, trails.defers, trails.atOnce]
  exact { trails with
    written := rfl
    shown := rfl
    tidy := rfl
    clean := fun clean => absurd clean (by simp)
    closed := fun closed => absurd (isOpen.symm.trans closed) (by simp) }

end Trails

/-! ## One call on both -/

/-- A call has the same answer on both indexes, and a commit point shows what the other one shows. -/
structure StepsAlong (deferred immediate : Index) (operation : Operation) : Prop where
  trails : (deferred.apply operation).1.Trails (immediate.apply operation).1
  answer : (deferred.apply operation).2 = (immediate.apply operation).2
  committed : (deferred.apply operation).1.committed
    = if deferred.commitsBy operation then immediate.committed else deferred.committed

namespace Trails

variable {deferred immediate : Index} {operation : Operation}

/-- A call that fails on both. -/
theorem step_of_error (trails : deferred.Trails immediate) (failure : Failure)
    (first : deferred.apply operation = (deferred, .error failure))
    (second : immediate.apply operation = (immediate, .error failure)) :
    StepsAlong deferred immediate operation := by
  refine ⟨?_, ?_, ?_⟩
  · rw [first, second]
    exact trails
  · rw [first, second]
  · have uncommitted : deferred.commitsBy operation = false := by
      simp [commitsBy, first, Except.isOk, Except.toBool]
    rw [first, uncommitted]
    rfl

/-- A call that makes one write on both and commits nothing before. -/
theorem step_of_write (trails : deferred.Trails immediate) (isOpen : deferred.isOpen = true)
    (write : operation.isCommitPoint = false) (written : Snapshot)
    (first : deferred.apply operation = (deferred.afterWrite written, .ok none))
    (second : immediate.apply operation = (immediate.afterWrite written, .ok none)) :
    StepsAlong deferred immediate operation := by
  refine ⟨?_, ?_, ?_⟩
  · rw [first, second]
    exact trails.afterWrite isOpen written
  · rw [first, second]
  · have uncommitted : deferred.commitsBy operation = false := by
      simp [commitsBy, write]
    rw [first, uncommitted, committed_afterWrite_of_deferred trails.defers]
    rfl

/-- A call that shows on the one index all that the other one shows. -/
theorem step_of_commit (next other : Index) (count : Option Nat)
    (point : operation.isCommitPoint = true) (first : deferred.apply operation = (next, .ok count))
    (second : immediate.apply operation = (other, .ok count)) (after : next.Trails other)
    (level : next.committed = immediate.committed) : StepsAlong deferred immediate operation := by
  refine ⟨?_, ?_, ?_⟩
  · rw [first, second]
    exact after
  · rw [first, second]
  · have commits : deferred.commitsBy operation = true := by
      rw [commitsBy, point, first]
      rfl
    rw [first, commits]
    exact level

theorem step_add (trails : deferred.Trails immediate) (mailbox : Mailbox) (message : Message) :
    StepsAlong deferred immediate (.add mailbox message) := by
  by_cases foreign : message.mailbox ≠ mailbox
  · exact trails.step_of_error (.foreignMailbox message.uid message.mailbox mailbox)
      (by simp [apply, add, foreign]) (by simp [apply, add, foreign])
  · cases built : MessageDocuments.ofMessage deferred.decoder message with
    | error failure =>
        have same := trails.decoder ▸ built
        exact trails.step_of_error failure (by simp [apply, add, foreign, built])
          (by simp [apply, add, foreign, same])
    | ok documents =>
        have same := trails.decoder ▸ built
        cases isOpen : deferred.isOpen with
        | false =>
            exact trails.step_of_error (.closed "add")
              (by simp [apply, add, foreign, built, put_eq, isOpen])
              (by simp [apply, add, foreign, same, put_eq, ← trails.isOpen, isOpen])
        | true =>
            exact trails.step_of_write isOpen rfl
              (replace deferred.analysis (replace deferred.analysis deferred.written
                (.content documents.content)) (.flags documents.flags))
              (by simp [apply, add, foreign, built, put_eq, isOpen])
              (by simp [apply, add, foreign, same, put_eq, ← trails.isOpen, isOpen, trails.written,
                trails.analysis])

theorem step_delete (trails : deferred.Trails immediate) (mailbox : Mailbox) (range : UidRange) :
    StepsAlong deferred immediate (.delete mailbox range) := by
  cases isOpen : deferred.isOpen with
  | false =>
      exact trails.step_of_error (.closed "delete") (by simp [apply, delete_eq, isOpen])
        (by simp [apply, delete_eq, ← trails.isOpen, isOpen])
  | true =>
      exact trails.step_of_write isOpen rfl
        (deferred.written.filter fun entry => ! (rangeQuery mailbox range).selects entry)
        (by simp [apply, delete_eq, isOpen])
        (by simp [apply, delete_eq, ← trails.isOpen, isOpen, trails.written])

/-- An update commits what is pending, finds the same messages on both and leaves its own writes pending. -/
theorem step_update (trails : deferred.Trails immediate) (mailbox : Mailbox) (range : UidRange)
    (flags : Flags) : StepsAlong deferred immediate (.update mailbox range flags) := by
  cases isOpen : deferred.isOpen with
  | false =>
      exact trails.step_of_error (.closed "update") (by simp [apply, update_eq, isOpen])
        (by simp [apply, update_eq, ← trails.isOpen, isOpen])
  | true =>
      have ready : deferred.commitPending.Trails immediate.commitPending := by
        rw [trails.commitPending_immediate]
        exact trails.commitPending
      have found : immediate.commitPending.committed = deferred.commitPending.committed := by
        rw [trails.committed_commitPending, trails.commitPending_immediate]
      have same : immediate.commitPending.reflagged mailbox range flags
          = deferred.commitPending.reflagged mailbox range flags := by
        rw [reflagged, reflagged, found, ready.analysis, ready.written]
      refine step_of_commit
        (deferred.commitPending.afterWrite (deferred.commitPending.reflagged mailbox range flags))
        (immediate.commitPending.afterWrite (deferred.commitPending.reflagged mailbox range flags))
        (some (deferred.commitPending.committed.uids (flagsQuery mailbox range)).length) rfl ?_ ?_
        (ready.afterWrite ?_ _) ?_
      · simp [apply, update_eq, isOpen]
      · simp [apply, update_eq, ← trails.isOpen, isOpen, same, found]
      · rw [isOpen_commitPending, isOpen]
      · rw [committed_afterWrite_of_deferred ready.defers, trails.committed_commitPending]

theorem step_flush (trails : deferred.Trails immediate) : StepsAlong deferred immediate .flush := by
  cases isOpen : deferred.isOpen with
  | false =>
      exact trails.step_of_error (.closed "flush") (by simp [apply, flush_eq, isOpen])
        (by simp [apply, flush_eq, ← trails.isOpen, isOpen])
  | true =>
      refine step_of_commit deferred.commitPending immediate none rfl ?_ ?_ trails.commitPending
        trails.committed_commitPending
      · simp [apply, flush_eq, isOpen]
      · simp [apply, flush_eq, ← trails.isOpen, isOpen, trails.commitPending_immediate]

theorem step_requestCommit (trails : deferred.Trails immediate) :
    StepsAlong deferred immediate .requestCommit := by
  have second : immediate.apply .requestCommit = (immediate, .ok none) := by
    simp [apply, requestCommit, trails.atOnce]
  cases isOpen : deferred.isOpen with
  | false =>
      refine step_of_commit deferred immediate none rfl ?_ second trails ?_
      · simp [apply, requestCommit, isOpen]
      · exact trails.committed_of_clean (trails.closed isOpen)
  | true =>
      refine step_of_commit deferred.commitPending immediate none rfl ?_ second trails.commitPending
        trails.committed_commitPending
      simp [apply, requestCommit, isOpen, trails.defers]

theorem step_close (trails : deferred.Trails immediate) : StepsAlong deferred immediate .close := by
  cases isOpen : deferred.isOpen with
  | false =>
      refine step_of_commit deferred immediate none rfl ?_ ?_ trails ?_
      · simp [apply, close, isOpen]
      · simp [apply, close, ← trails.isOpen, isOpen]
      · exact trails.committed_of_clean (trails.closed isOpen)
  | true =>
      have ready := trails.commitPending
      refine step_of_commit { deferred.commitPending with isOpen := false }
        { immediate with isOpen := false } none rfl ?_ ?_ ?_ trails.committed_commitPending
      · simp [apply, close, isOpen]
      · simp [apply, close, ← trails.isOpen, isOpen, trails.commitPending_immediate]
      · exact { ready with isOpen := rfl, closed := fun _ => isDirty_commitPending deferred }

/-- Every call has the same answer on both. -/
theorem step (trails : deferred.Trails immediate) (operation : Operation) :
    StepsAlong deferred immediate operation := by
  cases operation with
  | add mailbox message => exact trails.step_add mailbox message
  | update mailbox range flags => exact trails.step_update mailbox range flags
  | delete mailbox range => exact trails.step_delete mailbox range
  | flush => exact trails.step_flush
  | requestCommit => exact trails.step_requestCommit
  | close => exact trails.step_close

/-! ## Many calls on both -/

theorem run (trails : deferred.Trails immediate) (operations : List Operation) :
    (deferred.run operations).Trails (immediate.run operations) := by
  induction operations generalizing deferred immediate with
  | nil => exact trails
  | cons operation rest ih => exact ih (trails.step operation).trails

theorem answers_eq (trails : deferred.Trails immediate) (operations : List Operation) :
    deferred.answers operations = immediate.answers operations := by
  induction operations generalizing deferred immediate with
  | nil => rfl
  | cons operation rest ih =>
      have step := trails.step operation
      rw [answers, answers, step.answer, ih step.trails]

/-- What is visible is what the covered calls have made. -/
theorem committed_run (trails : deferred.Trails immediate)
    (level : deferred.committed = immediate.committed) (operations : List Operation) :
    (deferred.run operations).committed
      = (immediate.run (operations.take (deferred.covered 0 0 operations))).committed := by
  induction operations using List.reverseRecOn with
  | nil => exact level
  | append_singleton operations operation ih =>
      have last : deferred.run (operations ++ [operation])
          = ((deferred.run operations).apply operation).1 := run_append deferred operations [operation]
      have bound : deferred.covered 0 0 operations ≤ operations.length := by
        simpa using deferred.covered_le (Nat.le_refl 0) operations
      rw [last, ((trails.run operations).step operation).committed, covered_append, Nat.zero_add]
      split
      · rw [List.take_left]
      · rw [List.take_append_of_le_length bound, ih]

end Trails

/-! ## What is visible -/

/-- Two indexes answer all questions alike. -/
structure ShowsSame (one other : Index) : Prop where
  search : ∀ mailbox criterion, one.search mailbox criterion = other.search mailbox criterion
  highestUid : ∀ mailbox, one.highestUid? mailbox = other.highestUid? mailbox
  statistics : one.statistics = other.statistics

variable {index one other : Index}

theorem showsSame_of_committed (committed : one.committed = other.committed)
    (analysis : one.analysis = other.analysis)
    (maxResults : one.config.maxResults = other.config.maxResults) : one.ShowsSame other := by
  refine ⟨fun mailbox criterion => ?_, fun mailbox => ?_, ?_⟩
  · rw [search, search, committed, analysis, maxResults]
  · rw [highestUid?, highestUid?, committed]
  · rw [statistics, statistics, committed]

/-- No call changes the configuration. -/
theorem config_apply (index : Index) (operation : Operation) :
    (index.apply operation).1.config = index.config := by
  cases operation with
  | add mailbox message =>
      rw [apply]
      split
      · next next done =>
        obtain ⟨-, content, -, put⟩ := add_ok done
        rw [(put_ok put).2, config_afterWrite]
      · rfl
  | update mailbox range flags =>
      rw [apply]
      split
      · next next count done => rw [(update_ok done).2.1, config_afterWrite, config_commitPending]
      · rfl
  | delete mailbox range =>
      rw [apply]
      split
      · next next done => rw [(delete_ok done).2, config_afterWrite]
      · rfl
  | flush =>
      rw [apply]
      split
      · next next done => rw [(flush_ok done).2, config_commitPending]
      · rfl
  | requestCommit =>
      rw [apply, requestCommit]
      split
      · exact config_commitPending index
      · rfl
  | close =>
      rw [apply, close]
      split
      · exact config_commitPending index
      · rfl

theorem config_run (index : Index) (operations : List Operation) :
    (index.run operations).config = index.config := by
  induction operations generalizing index with
  | nil => rfl
  | cons operation rest ih => exact (ih _).trans (index.config_apply operation)

/-- Writes on a closed index fail. -/
theorem exists_failure_of_closed (closed : index.isOpen = false) {operation : Operation}
    (needs : operation.needsOpen = true) :
    ∃ failure, index.apply operation = (index, .error failure) := by
  cases operation with
  | add mailbox message =>
      rw [apply]
      split
      · next next done =>
        obtain ⟨-, content, -, put⟩ := add_ok done
        exact absurd (put_ok put).1 (by simp [closed])
      · exact ⟨_, rfl⟩
  | update mailbox range flags => exact ⟨.closed "update", by simp [apply, update_eq, closed]⟩
  | delete mailbox range => exact ⟨.closed "delete", by simp [apply, delete_eq, closed]⟩
  | flush => exact ⟨.closed "flush", by simp [apply, flush_eq, closed]⟩
  | requestCommit => simp [Operation.needsOpen] at needs
  | close => simp [Operation.needsOpen] at needs

/-- A closed index stays as it is. -/
theorem run_of_closed (closed : index.isOpen = false) (operations : List Operation) :
    index.run operations = index := by
  induction operations with
  | nil => rfl
  | cons operation rest ih =>
      have same : (index.apply operation).1 = index := by
        cases needs : operation.needsOpen with
        | true =>
            obtain ⟨failure, failed⟩ := exists_failure_of_closed closed needs
            rw [failed]
        | false =>
            cases operation with
            | requestCommit => simp [apply, requestCommit, closed]
            | close => simp [apply, close, closed]
            | _ => simp [Operation.needsOpen] at needs
      exact (congrArg (fun next : Index => next.run rest) same).trans ih

/-! ## Deferred runs -/

/-- After a flush or a close nothing is pending. -/
theorem Trails.isDirty_apply {deferred immediate : Index} (trails : deferred.Trails immediate)
    {last : Operation} (ends : last = .flush ∨ last = .close) :
    (deferred.apply last).1.isDirty = false := by
  rcases ends with rfl | rfl
  · cases isOpen : deferred.isOpen with
    | true => simp [apply, flush_eq, isOpen, isDirty_commitPending]
    | false => simp [apply, flush_eq, isOpen, trails.closed isOpen]
  · cases isOpen : deferred.isOpen with
    | true => simp [apply, close, isOpen, isDirty_commitPending]
    | false => simp [apply, close, isOpen, trails.closed isOpen]

theorem isOpen_apply_close (index : Index) : (index.apply .close).1.isOpen = false := by
  rw [apply, close]
  split
  · rfl
  · next closed => simpa using closed

/-- Indexes whose runs show the same entries show the same. -/
theorem Trails.showsSame_run {deferred immediate : Index} (trails : deferred.Trails immediate)
    {operations others : List Operation}
    (committed : (deferred.run operations).committed = (immediate.run others).committed) :
    (deferred.run operations).ShowsSame (immediate.run others) := by
  refine showsSame_of_committed committed ?_ ?_
  · change (deferred.run operations).config.analysis = (immediate.run others).config.analysis
    rw [config_run, config_run]
    exact trails.analysis
  · rw [config_run, config_run]
    exact trails.maxResults

/--
An index with a commit interval shows what one without shows after the calls before the last commit point.
All calls have the same answers. A flush or a close brings the two together, and after a close nothing
changes any more.
-/
theorem run_deferred (config : Config) (seconds : Nat) (decoder : Mime.Decoder) (snapshot : Snapshot)
    (operations : List Operation) :
    let deferred := ofSnapshot { config with commitInterval := some seconds } decoder snapshot
    let immediate := ofSnapshot { config with commitInterval := none } decoder snapshot
    (deferred.run operations).ShowsSame
        (immediate.run (operations.take (deferred.covered 0 0 operations)))
      ∧ deferred.answers operations = immediate.answers operations
      ∧ (∀ last ∈ [Operation.flush, .close],
        (deferred.run (operations ++ [last])).ShowsSame (immediate.run (operations ++ [last])))
      ∧ ∀ later,
        (deferred.run (operations ++ .close :: later)).ShowsSame (immediate.run (operations ++ [.close]))
          ∧ ∀ operation : Operation, operation.needsOpen = true →
            ∃ failure, (deferred.run (operations ++ .close :: later)).apply operation
              = (deferred.run (operations ++ .close :: later), .error failure) := by
  intro deferred immediate
  have trails : deferred.Trails immediate := trails_ofSnapshot config seconds decoder snapshot
  have ended : ∀ last, last = .flush ∨ last = .close →
      (deferred.run (operations ++ [last])).committed
        = (immediate.run (operations ++ [last])).committed := by
    intro last ends
    refine (trails.run (operations ++ [last])).committed_of_clean ?_
    rw [run_append]
    exact (trails.run operations).isDirty_apply ends
  have closed : (deferred.run (operations ++ [.close])).isOpen = false := by
    rw [run_append]
    exact isOpen_apply_close _
  have after : ∀ later, deferred.run (operations ++ .close :: later)
      = deferred.run (operations ++ [.close]) := by
    intro later
    rw [List.append_cons, run_append, run_of_closed closed]
  refine ⟨trails.showsSame_run (trails.committed_run rfl operations), trails.answers_eq operations,
    fun last listed => trails.showsSame_run (ended last (by simpa using listed)), fun later => ?_⟩
  rw [after later]
  exact ⟨trails.showsSame_run (ended .close (Or.inr rfl)),
    fun operation => exists_failure_of_closed closed⟩

/-- The flush covers the first deletion; the second one is pending. -/
example : (ofSnapshot { Config.small with commitInterval := some 60 } (fun _ => .ok []) []).covered 0 0
    [.delete ⟨"inbox"⟩ .all, .flush, .delete ⟨"inbox"⟩ .all] = 1 := by
  rfl

end Index

end Letterbox
