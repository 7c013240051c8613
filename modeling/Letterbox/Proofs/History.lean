import Letterbox.Proofs.Ledger
import Letterbox.Proofs.Traffic

/-!
# Histories of calls

The answers to the calls on an index tell which messages there should be: one that was added or imported is
there until another takes its number or it is deleted. Main statement: what every write and every commit keep
true of an index and of the messages so told is true after each history.
-/

namespace Letterbox

/-! ## What answers tell -/

namespace Ledger

/-- The ledger after a message was added. -/
def enter (ledger : Ledger) (decoder : Mime.Decoder) (mailbox : Mailbox) (message : Message) : Ledger :=
  match ContentDocument.ofMessage decoder message with
  | .ok content => ledger.put mailbox message.uid ⟨content, message.flags⟩
  | .error _ => ledger

/-- The ledger after an import: each source that was imported as reported is there under its number. -/
def enterAll (ledger : Ledger) (decoder : Mime.Decoder) (target : ImportTarget) :
    List ImportSource → ImportReport → Ledger
  | source :: sources, .imported uid :: report =>
    match source.content with
    | .ok content =>
      (ledger.enter decoder target.mailbox (target.message uid content)).enterAll decoder (target.after content)
        sources report
    | .error _ => ledger.enterAll decoder target sources report
  | source :: sources, .failed _ :: report =>
    match source.content with
    | .ok content => ledger.enterAll decoder (target.after content) sources report
    | .error _ => ledger.enterAll decoder target sources report
  | _, _ => ledger

end Ledger

/-- The ledger after a call on an index, as the answer to the call tells. A call that fails changes nothing. -/
def Call.record (index : Index) (held : Ledger) : Call → Ledger
  | add mailbox message =>
    match index.add mailbox message with
    | .ok _ => held.enter index.decoder mailbox message
    | .error _ => held
  | importAll target first sources =>
    held.enterAll index.decoder target sources
      (index.importFrom target (first.getD (index.firstFreeUid target.mailbox)) sources).2
  | update mailbox range flags =>
    match index.update mailbox range flags with
    | .ok _ => held.reflag mailbox range flags
    | .error _ => held
  | delete mailbox range =>
    match index.delete mailbox range with
    | .ok _ => held.remove mailbox range
    | .error _ => held
  | flush | requestCommit | close => held

namespace Index

/-- The index after some calls. -/
def after (index : Index) (calls : List Call) : Index :=
  calls.foldl Call.apply index

/-- The ledger after some calls. -/
def told (index : Index) (held : Ledger) : List Call → Ledger
  | [] => held
  | call :: rest => (call.apply index).told (call.record index held) rest

end Index

/-! ## What calls keep -/

/-- A call on an index brings only messages with allowed numbers. -/
def Call.Brings (allowed : Mailbox → Uid → Prop) (index : Index) : Call → Prop
  | add mailbox message => allowed mailbox message.uid
  | importAll target first sources =>
    ∀ uid ∈ (index.importFrom target (first.getD (index.firstFreeUid target.mailbox)) sources).2.uids,
      allowed target.mailbox uid
  | _ => True

/-- Each of some calls brings only messages with allowed numbers to the index that it comes upon. -/
def Index.Brings (allowed : Mailbox → Uid → Prop) (index : Index) : List Call → Prop
  | [] => True
  | call :: rest => call.Brings allowed index ∧ (call.apply index).Brings allowed rest

/-- What every write and every commit keep true of an index and of the messages that were told of it. -/
structure KeptByWrites (allowed : Mailbox → Uid → Prop) (holds : Index → Ledger → Prop) : Prop where
  add : ∀ {index next : Index} {held : Ledger} {mailbox : Mailbox} {message : Message}, holds index held →
    allowed mailbox message.uid → index.add mailbox message = .ok next →
      holds next (held.enter index.decoder mailbox message)
  update : ∀ {index next : Index} {held : Ledger} {mailbox : Mailbox} {range : UidRange} {flags : Flags}
    {count : Nat}, holds index held → index.update mailbox range flags = .ok (next, count) →
      holds next (held.reflag mailbox range flags)
  delete : ∀ {index next : Index} {held : Ledger} {mailbox : Mailbox} {range : UidRange}, holds index held →
    index.delete mailbox range = .ok next → holds next (held.remove mailbox range)
  commit : ∀ {index : Index} {held : Ledger}, holds index held → holds index.commitPending held
  shut : ∀ {index : Index} {held : Ledger}, holds index held → holds { index with isOpen := false } held

namespace KeptByWrites

variable {allowed : Mailbox → Uid → Prop} {holds : Index → Ledger → Prop} {index : Index} {held : Ledger}

/-- An import keeps what its additions keep. -/
theorem importFrom (kept : KeptByWrites allowed holds) (now : holds index held) {target : ImportTarget}
    {uid : Uid} {sources : List ImportSource}
    (brings : ∀ new ∈ (index.importFrom target uid sources).2.uids, allowed target.mailbox new) :
    holds (index.importFrom target uid sources).1
      (held.enterAll index.decoder target sources (index.importFrom target uid sources).2) := by
  fun_induction index.importFrom target uid sources generalizing held with
  | case1 index target uid => exact now
  | case2 index target uid source rest fault unreadable last report imported ih =>
      rw [imported] at ih
      simp only [Ledger.enterAll, unreadable]
      exact ih now brings
  | case3 index target uid source rest content readable cause refused last report imported ih =>
      rw [imported] at ih
      simp only [Ledger.enterAll, readable]
      exact ih now brings
  | case4 index target uid source rest content readable next added last report imported ih =>
      rw [imported] at ih
      obtain ⟨first, others⟩ := List.forall_mem_cons.mp brings
      have later := ih (kept.add now first added) others
      rw [Index.decoder_of_add added] at later
      simp only [Ledger.enterAll, readable]
      exact later

theorem flush (kept : KeptByWrites allowed holds) (now : holds index held) :
    holds (index.flush.toOption.getD index) held := by
  rw [Index.flush_eq]
  split
  · exact kept.commit now
  · exact now

/-- A call keeps what writes and commits keep. -/
theorem apply (kept : KeptByWrites allowed holds) (now : holds index held) {call : Call}
    (brings : call.Brings allowed index) : holds (call.apply index) (call.record index held) := by
  cases call with
  | add mailbox message =>
      rw [Call.apply, Call.record]
      cases added : index.add mailbox message with
      | error failure => exact now
      | ok next => exact kept.add now brings added
  | importAll target first sources => exact kept.importFrom now brings
  | update mailbox range flags =>
      rw [Call.apply, Job.apply, Call.record]
      cases updated : index.update mailbox range flags with
      | error failure => exact now
      | ok result => exact kept.update now updated
  | delete mailbox range =>
      rw [Call.apply, Job.apply, Call.record]
      cases deleted : index.delete mailbox range with
      | error failure => exact now
      | ok next => exact kept.delete now deleted
  | flush => exact kept.flush now
  | requestCommit =>
      rw [Call.apply, Index.requestCommit]
      split
      · exact kept.commit now
      · exact now
  | close =>
      rw [Call.apply, Index.close]
      split
      · exact kept.shut (kept.commit now)
      · exact now

/-- A history keeps what writes and commits keep. -/
theorem after (kept : KeptByWrites allowed holds) (now : holds index held) {calls : List Call}
    (brings : index.Brings allowed calls) : holds (index.after calls) (index.told held calls) := by
  induction calls generalizing index held with
  | nil => exact now
  | cons call rest ih => exact ih (kept.apply now brings.1) brings.2

end KeptByWrites

theorem keptByWrites_config (config : Config) :
    KeptByWrites (fun _ _ => True) fun index _ => index.config = config where
  add := by
    rintro index next held mailbox message rfl - added
    obtain ⟨-, content, -, put⟩ := Index.add_ok added
    rw [(Index.put_ok put).2, Index.config_afterWrite]
  update := by
    rintro index next held mailbox range flags count rfl updated
    rw [(Index.update_ok updated).2.1, Index.config_afterWrite, Index.config_commitPending]
  delete := by
    rintro index next held mailbox range rfl deleted
    rw [(Index.delete_ok deleted).2, Index.config_afterWrite]
  commit := by
    rintro index held rfl
    exact index.config_commitPending
  shut := fun same => same

theorem Index.brings_any (index : Index) (calls : List Call) : index.Brings (fun _ _ => True) calls := by
  induction calls generalizing index with
  | nil => trivial
  | cons call rest ih =>
      refine ⟨?_, ih _⟩
      cases call with
      | importAll target first sources => exact fun _ _ => trivial
      | _ => trivial

/-- No history changes the configuration. -/
theorem Index.config_after (index : Index) (calls : List Call) :
    (index.after calls).config = index.config :=
  @KeptByWrites.after _ _ index index.written.ledger (keptByWrites_config index.config) rfl calls
    (index.brings_any calls)

end Letterbox
