import Letterbox.Import
import Letterbox.Proofs.Calls
import Mathlib

/-!
# Traffic on an index

Many callers share one index. Documents are built and numbers are chosen while others go on; a write itself
runs under the lock of the index, one effect after another, and what searches see can be looked at between
any two effects. Main statement: what one caller does undisturbed is what the functions of `Index` say.
-/

namespace Letterbox

/-! ## Scripts -/

/-- An effect on an index, under its lock. -/
inductive Action where
  | remove (query : Query)
  | insert (document : Document)
  | commitPending
  /-- A write ends: it is committed or left pending. -/
  | finish
  /-- The index takes no more writes. -/
  | shut

/-- An index after an effect. -/
def Action.perform (index : Index) : Action → Index
  | remove query => { index with written := index.written.filter fun entry => ! query.selects entry }
  | insert document =>
    { index with written := index.written ++ [Entry.ofDocument index.analysis document] }
  | commitPending => index.commitPending
  | finish => index.afterWrite index.written
  | shut => { index with isOpen := false }

/-- The effects of a write; a write can go on with the numbers that a query finds in what searches see. -/
inductive Script where
  | done
  | act (action : Action) (rest : Script)
  | lookUp (query : Query) (rest : List Uid → Script)

namespace Script

/-- The index after all effects. -/
def run (index : Index) : Script → Index
  | done => index
  | act action rest => rest.run (action.perform index)
  | lookUp query rest => (rest (index.committed.uids query)).run index

/-- Puts documents in the places of those with their keys and kinds, and goes on. -/
def replaceAll (rest : Script) : List Document → Script
  | [] => rest
  | document :: others =>
    .act (.remove (.withKey document.key document.kind)) (.act (.insert document) (replaceAll rest others))

/-- The end of a write. -/
def finish : Script :=
  .act .finish .done

theorem run_replaceAll (index : Index) (rest : Script) (documents : List Document) :
    (replaceAll rest documents).run index
      = rest.run { index with written := documents.foldl (Index.replace index.analysis) index.written } := by
  induction documents generalizing index with
  | nil => rfl
  | cons document others ih =>
      simp only [replaceAll, run, Action.perform]
      rw [ih]
      rfl

end Script

/-! ## Jobs -/

/-- What is done under the lock of an index. -/
inductive Job where
  | put (documents : MessageDocuments)
  | update (mailbox : Mailbox) (range : UidRange) (flags : Flags)
  | delete (mailbox : Mailbox) (range : UidRange)
  | commit
  | close

namespace Job

/-- The effects of a job, which needs an open index. -/
def script (index : Index) (job : Job) : Script :=
  if index.isOpen then
    match job with
    | put documents => .replaceAll .finish [.content documents.content, .flags documents.flags]
    | update mailbox range flags =>
      .act .commitPending (.lookUp (Index.flagsQuery mailbox range) fun uids =>
        .replaceAll .finish (uids.map fun uid => .flags ⟨mailbox, uid, flags⟩))
    | delete mailbox range => .act (.remove (Index.rangeQuery mailbox range)) .finish
    | commit => .act .commitPending .done
    | close => .act .commitPending (.act .shut .done)
  else .done

/-- The index after a job, which stays as it is if the job fails. -/
def apply (index : Index) : Job → Index
  | put documents => (index.put documents).toOption.getD index
  | update mailbox range flags => ((index.update mailbox range flags).toOption.map Prod.fst).getD index
  | delete mailbox range => (index.delete mailbox range).toOption.getD index
  | commit => index.flush.toOption.getD index
  | close => index.close

/-- The effects of a job make of an index what the job's function does. -/
theorem run_script (index : Index) (job : Job) : (job.script index).run index = job.apply index := by
  cases isOpen : index.isOpen with
  | false =>
      have idle : job.script index = .done := by simp [script, isOpen]
      rw [idle]
      cases job with
      | put documents => simp [Script.run, apply, Index.put_eq, isOpen, Except.toOption]
      | update mailbox range flags => simp [Script.run, apply, Index.update_eq, isOpen, Except.toOption]
      | delete mailbox range => simp [Script.run, apply, Index.delete_eq, isOpen, Except.toOption]
      | commit => simp [Script.run, apply, Index.flush_eq, isOpen, Except.toOption]
      | close => simp [Script.run, apply, Index.close, isOpen]
  | true =>
      unfold script
      rw [if_pos isOpen]
      cases job with
      | put documents =>
          simp only [Script.run_replaceAll, Script.finish, Script.run, Action.perform, apply, Index.put_eq,
            if_pos isOpen, Except.toOption, Option.getD_some]
          rfl
      | update mailbox range flags =>
          simp only [Script.run, Script.run_replaceAll, Script.finish, Action.perform, apply,
            Index.update_eq, if_pos isOpen, Except.toOption, Option.map_some, Option.getD_some,
            List.foldl_map]
          rfl
      | delete mailbox range =>
          simp only [Script.finish, Script.run, Action.perform, apply, Index.delete_eq, if_pos isOpen,
            Except.toOption, Option.getD_some]
          rfl
      | commit =>
          simp only [Script.run, Action.perform, apply, Index.flush_eq, if_pos isOpen, Except.toOption,
            Option.getD_some]
      | close => simp only [Script.run, Action.perform, apply, Index.close, if_pos isOpen]

end Job

/-! ## Callers -/

/-- What a caller asks for. -/
inductive Call where
  | add (mailbox : Mailbox) (message : Message)
  | importAll (target : ImportTarget) (first : Option Uid) (sources : List ImportSource)
  | update (mailbox : Mailbox) (range : UidRange) (flags : Flags)
  | delete (mailbox : Mailbox) (range : UidRange)
  | flush
  | requestCommit
  | close

/-- What is left to do of a call. -/
inductive Task where
  | ended
  | add (mailbox : Mailbox) (message : Message)
  | start (target : ImportTarget) (first : Option Uid) (sources : List ImportSource)
  | append (target : ImportTarget) (uid : Uid) (sources : List ImportSource)
  /-- A job waits for the lock. -/
  | lock (job : Job) (next : Task)

/-- The task of a call. Only an index with a commit interval has someone to ask for a commit. -/
def Call.task (index : Index) : Call → Task
  | add mailbox message => .add mailbox message
  | importAll target first sources => .start target first sources
  | update mailbox range flags => .lock (.update mailbox range flags) .ended
  | delete mailbox range => .lock (.delete mailbox range) .ended
  | flush => .lock .commit .ended
  | requestCommit => if index.config.commitsAtOnce then .ended else .lock .commit .ended
  | close => .lock .close .ended

/-- A step of a task without the lock: documents are built, a first number is read, a source is skipped. -/
def Task.advance (index : Index) : Task → Task
  | ended => ended
  | add mailbox message =>
    if message.mailbox ≠ mailbox then ended
    else
      match MessageDocuments.ofMessage index.decoder message with
      | .error _ => ended
      | .ok documents => lock (.put documents) ended
  | start target first sources => append target (first.getD (index.firstFreeUid target.mailbox)) sources
  | append _ _ [] => ended
  | append target uid (source :: rest) =>
    match source.content with
    | .error _ => append target uid rest
    | .ok content =>
      match MessageDocuments.ofMessage index.decoder (target.message uid content) with
      | .error _ => append (target.after content) (nextUid uid) rest
      | .ok documents => lock (.put documents) (append (target.after content) (nextUid uid) rest)
  | lock job next => lock job next

/-- The index after a call that nobody disturbs. -/
def Call.apply (index : Index) : Call → Index
  | add mailbox message => (index.add mailbox message).toOption.getD index
  | importAll target first sources =>
    (index.importFrom target (first.getD (index.firstFreeUid target.mailbox)) sources).1
  | update mailbox range flags => (Job.update mailbox range flags).apply index
  | delete mailbox range => (Job.delete mailbox range).apply index
  | flush => Job.commit.apply index
  | requestCommit => index.requestCommit
  | close => index.close

/-- The holder of a lock: the effects that are left, and what comes when the lock is given back. -/
structure Holder where
  script : Script
  next : Task

/-- An index with its callers. -/
structure Traffic where
  index : Index
  tasks : List Task
  holder : Option Holder

/-- What can happen next. -/
inductive Event where
  | issue (call : Call)
  /-- The task at a place makes a step without the lock. -/
  | advance (place : Nat)
  /-- The task at a place gets the lock, if it is free. -/
  | acquire (place : Nat)
  /-- The holder of the lock makes a step. -/
  | act
  /-- The commit interval is over. -/
  | tick
  /-- All tasks are lost, and the index is opened anew on what was committed. -/
  | restart (config : Config) (decoder : Mime.Decoder)

namespace Traffic

/-- A new index without callers. -/
def start (config : Config) (decoder : Mime.Decoder) : Traffic :=
  ⟨.ofSnapshot config decoder [], [], none⟩

/-- One thing happens. -/
def step (traffic : Traffic) : Event → Traffic
  | .issue call => { traffic with tasks := traffic.tasks ++ [call.task traffic.index] }
  | .advance place => { traffic with tasks := traffic.tasks.modify place (Task.advance traffic.index) }
  | .acquire place =>
    match traffic.holder, traffic.tasks[place]? with
    | none, some (.lock job next) =>
      { traffic with
        tasks := traffic.tasks.eraseIdx place
        holder := some ⟨job.script traffic.index, next⟩ }
    | _, _ => traffic
  | .act =>
    match traffic.holder with
    | none => traffic
    | some ⟨.done, next⟩ => { traffic with tasks := traffic.tasks ++ [next], holder := none }
    | some ⟨.act action rest, next⟩ =>
      { traffic with index := action.perform traffic.index, holder := some ⟨rest, next⟩ }
    | some ⟨.lookUp query rest, next⟩ =>
      { traffic with holder := some ⟨rest (traffic.index.committed.uids query), next⟩ }
  | .tick =>
    if traffic.index.config.commitsAtOnce then traffic
    else { traffic with tasks := traffic.tasks ++ [.lock .commit .ended] }
  | .restart config decoder => ⟨.ofSnapshot config decoder traffic.index.committed, [], none⟩

/-- Many things happen, one after another. -/
def run (traffic : Traffic) (events : List Event) : Traffic :=
  events.foldl step traffic

/-! ## One caller alone -/

/-- Some events lead from one state to another. -/
def Reaches (first last : Traffic) : Prop :=
  ∃ events, first.run events = last

theorem Reaches.refl (traffic : Traffic) : traffic.Reaches traffic :=
  ⟨[], rfl⟩

theorem Reaches.step {first last : Traffic} (event : Event) (reaches : (first.step event).Reaches last) :
    first.Reaches last := by
  obtain ⟨events, found⟩ := reaches
  exact ⟨event :: events, found⟩

theorem Reaches.trans {first second last : Traffic} (one : first.Reaches second)
    (other : second.Reaches last) : first.Reaches last := by
  obtain ⟨events, rfl⟩ := one
  obtain ⟨others, rfl⟩ := other
  exact ⟨events ++ others, List.foldl_append⟩

/-- An index with one caller and nobody who holds the lock. -/
def alone (index : Index) (task : Task) : Traffic :=
  ⟨index, [task], none⟩

theorem reaches_advance {index : Index} {task next : Task} (advanced : task.advance index = next)
    {last : Traffic} (reaches : (alone index next).Reaches last) : (alone index task).Reaches last := by
  subst advanced
  exact .step (.advance 0) reaches

/-- A holder of the lock performs its script and gives the lock back. -/
theorem reaches_holder (index : Index) (script : Script) (next : Task) :
    Reaches ⟨index, [], some ⟨script, next⟩⟩ (alone (script.run index) next) := by
  induction script generalizing index with
  | done => exact .step .act (.refl _)
  | act action rest ih => exact .step .act (ih (action.perform index))
  | lookUp query rest ih => exact .step .act (ih (index.committed.uids query) index)

/-- A job that waits gets the lock and is done. -/
theorem reaches_lock (index : Index) (job : Job) (next : Task) :
    (alone index (.lock job next)).Reaches (alone (job.apply index) next) := by
  have held := reaches_holder index (job.script index) next
  rw [job.run_script] at held
  exact .step (.acquire 0) held

/-- An added message that nobody disturbs is added. -/
theorem reaches_add (index : Index) (mailbox : Mailbox) (message : Message) :
    (alone index (.add mailbox message)).Reaches
      (alone ((index.add mailbox message).toOption.getD index) .ended) := by
  by_cases foreign : message.mailbox ≠ mailbox
  · have refused : index.add mailbox message
        = .error (.foreignMailbox message.uid message.mailbox mailbox) := by
      simp [Index.add, foreign]
    rw [refused]
    exact reaches_advance (by simp [Task.advance, foreign]) (.refl _)
  · cases built : MessageDocuments.ofMessage index.decoder message with
    | error failure =>
        have refused : index.add mailbox message = .error failure := by simp [Index.add, foreign, built]
        rw [refused]
        exact reaches_advance (by simp [Task.advance, foreign, built]) (.refl _)
    | ok documents =>
        have added : index.add mailbox message = index.put documents := by
          simp [Index.add, foreign, built]
        rw [added]
        exact reaches_advance (by simp [Task.advance, foreign, built])
          (reaches_lock index (.put documents) .ended)

/-- Messages that are imported while nobody disturbs are imported. -/
theorem reaches_append (index : Index) (target : ImportTarget) (uid : Uid)
    (sources : List ImportSource) :
    (alone index (.append target uid sources)).Reaches
      (alone (index.importFrom target uid sources).1 .ended) := by
  induction sources generalizing index target uid with
  | nil => exact reaches_advance rfl (.refl _)
  | cons source rest ih =>
      cases content : source.content with
      | error fault =>
          rw [Index.importFrom, content]
          exact reaches_advance (by simp [Task.advance, content]) (ih index target uid)
      | ok bytes =>
          have own : (target.message uid bytes).mailbox = target.mailbox := rfl
          cases built : MessageDocuments.ofMessage index.decoder (target.message uid bytes) with
          | error failure =>
              have refused : index.add target.mailbox (target.message uid bytes) = .error failure := by
                simp [Index.add, own, built]
              simp only [Index.importFrom, content, refused]
              exact reaches_advance (by simp [Task.advance, content, built]) (ih index _ (nextUid uid))
          | ok documents =>
              have added : index.add target.mailbox (target.message uid bytes) = index.put documents := by
                simp [Index.add, own, built]
              have last : (index.importFrom target uid (source :: rest)).1
                  = (((Job.put documents).apply index).importFrom (target.after bytes) (nextUid uid) rest).1 := by
                rw [Index.importFrom, content]
                simp only [added, Job.apply]
                cases index.put documents <;> rfl
              rw [last]
              exact reaches_advance (by simp [Task.advance, content, built])
                ((reaches_lock index (.put documents) _).trans (ih _ _ (nextUid uid)))

/-- A call that nobody disturbs does what the function of its name does. -/
theorem reaches_call (index : Index) (call : Call) :
    (alone index (call.task index)).Reaches (alone (call.apply index) .ended) := by
  cases call with
  | add mailbox message => exact reaches_add index mailbox message
  | importAll target first sources => exact reaches_advance rfl (reaches_append index target _ sources)
  | requestCommit =>
      cases atOnce : index.config.commitsAtOnce with
      | true =>
          have idle : Call.requestCommit.task index = .ended := by simp [Call.task, atOnce]
          have same : index.requestCommit = index := by simp [Index.requestCommit, atOnce]
          rw [idle, Call.apply, same]
          exact .refl _
      | false =>
          have task : Call.requestCommit.task index = .lock .commit .ended := by simp [Call.task, atOnce]
          have applied : Job.commit.apply index = index.requestCommit := by
            rw [Job.apply, Index.flush_eq, Index.requestCommit, atOnce]
            cases index.isOpen <;> rfl
          rw [task, Call.apply, ← applied]
          exact reaches_lock index .commit .ended
  | update mailbox range flags => exact reaches_lock index (.update mailbox range flags) .ended
  | delete mailbox range => exact reaches_lock index (.delete mailbox range) .ended
  | flush => exact reaches_lock index .commit .ended
  | close => exact reaches_lock index .close .ended

end Traffic

end Letterbox
