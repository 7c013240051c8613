import Letterbox.Proofs.Deferral
import Mathlib

/-!
# Calls that fail

A call on an index is a row of effects, and an effect before a failure is not taken back. Main statement: the
calls that are refused fail before their first effect on the index, so that all later calls answer as if they
had not been made. Documents are built before the lock is taken.
-/

namespace Letterbox

/-! ## Decoders that tell event by event -/

/-- What a decoder tells of a message: events, and then perhaps why it gives up. -/
structure Telling where
  events : List Mime.Event
  fault : Option Failure

/-- A decoder as it is heard. -/
abbrev Teller := Bytes → Telling

/-- The decoder as a whole: what it told counts for nothing if it gives up. -/
def Teller.decoder (teller : Teller) : Mime.Decoder := fun content =>
  match (teller content).fault with
  | some cause => .error cause
  | none => .ok (teller content).events

/-- The content document after one more event. -/
def ContentDocument.hear (document : ContentDocument) (event : Mime.Event) : ContentDocument :=
  { document with
    headers := document.headers ++ event.header?.toList
    bodies := document.bodies ++ event.bodyText?.toList }

theorem ContentDocument.foldl_hear (document : ContentDocument) (events : List Mime.Event) :
    events.foldl hear document
      = { document with
          headers := document.headers ++ events.filterMap Mime.Event.header?
          bodies := document.bodies ++ events.filterMap Mime.Event.bodyText? } := by
  induction events generalizing document with
  | nil => simp
  | cons event rest ih =>
      rw [List.foldl_cons, ih]
      cases heard : event.header? <;> cases said : event.bodyText? <;> simp [hear, heard, said]

/-! ## Effects -/

/-- A call as it runs on an index: what it did stays done when it fails. -/
abbrev Effect := EStateM Failure Index

namespace Effect

/-- Hears a message: the document grows with each event, until the decoder ends or gives up. -/
def content (teller : Teller) (message : Message) : Effect ContentDocument := do
  let telling := teller message.content
  let document ← telling.events.foldlM (fun document event => pure (document.hear event))
    (ContentDocument.ofEvents message [])
  match telling.fault with
  | some cause => throw (.undecodable message.uid message.mailbox cause)
  | none => pure document

/-- Commits what is written. -/
def commit : Effect Unit :=
  modify Index.commit

/-- Fails on an index that is closed. -/
def requireOpen (operation : String) : Effect Unit := do
  if (← get).isOpen then pure () else throw (.closed operation)

/-- Removes the documents that a query selects. -/
def remove (query : Query) : Effect Unit :=
  modify fun index => { index with written := index.written.filter fun entry => ! query.selects entry }

/-- Writes a document. -/
def insert (document : Document) : Effect Unit :=
  modify fun index => { index with written := index.written ++ [Entry.ofDocument index.analysis document] }

/-- Writes a document in the place of those with its key. -/
def replace (document : Document) : Effect Unit := do
  remove (.withKey document.key document.kind)
  insert document

/--
Runs a write under the lock of an open index. Its effects are committed, or left pending; if it fails they are
taken back where each write is committed at once.
-/
def underLock {α : Type} (operation : String) (write : Effect α) : Effect α := do
  requireOpen operation
  try
    let value ← write
    if (← get).config.commitsAtOnce then commit else modify fun index => { index with isDirty := true }
    pure value
  catch cause =>
    if (← get).config.commitsAtOnce then modify fun index => { index with written := index.committed }
    throw cause

/-- Adds a message. -/
def add (teller : Teller) (mailbox : Mailbox) (message : Message) : Effect Unit := do
  if message.mailbox ≠ mailbox then
    throw (.foreignMailbox message.uid message.mailbox mailbox)
  let content ← content teller message
  underLock "add" do
    replace (.content content)
    replace (.flags (.ofMessage message))

/-- Sets flags: pending writes are committed, and messages are looked up. -/
def update (mailbox : Mailbox) (range : UidRange) (flags : Flags) : Effect Nat :=
  underLock "update" do
    if (← get).isDirty then commit
    let uids := (← get).committed.uids (Index.flagsQuery mailbox range)
    forM uids fun uid => replace (.flags ⟨mailbox, uid, flags⟩)
    pure uids.length

/-- Removes messages. -/
def delete (mailbox : Mailbox) (range : UidRange) : Effect Unit :=
  underLock "delete" (remove (Index.rangeQuery mailbox range))

/-- Commits what is pending. -/
def flush : Effect Unit := do
  requireOpen "flush"
  if (← get).isDirty then commit

/-- Searches what is committed. -/
def search (mailbox : Mailbox) (criterion : Criterion) : Effect (List Uid) := do
  let _ ← MonadExcept.ofExcept criterion.validate
  let index ← get
  let query ← MonadExcept.ofExcept (criterion.translate index.committed mailbox index.analysis)
  pure (index.committed.firstUids query index.config.maxResults)

/-! ## What each call does -/

variable {teller : Teller} {index : Index}

theorem content_run (message : Message) :
    (content teller message).run index
      = match ContentDocument.ofMessage teller.decoder message with
        | .ok document => .ok document index
        | .error cause => .error cause index := by
  have heard : (teller message.content).events.foldl ContentDocument.hear (ContentDocument.ofEvents message [])
      = ContentDocument.ofEvents message (teller message.content).events := by
    rw [ContentDocument.foldl_hear]
    simp [ContentDocument.ofEvents]
  simp only [content, List.foldlM_pure, pure_bind, heard]
  cases fault : (teller message.content).fault with
  | some cause => simp only [ContentDocument.ofMessage, Teller.decoder, fault]; rfl
  | none => simp only [ContentDocument.ofMessage, Teller.decoder, fault]; rfl

theorem requireOpen_run (operation : String) :
    (requireOpen operation).run index
      = if index.isOpen then .ok () index else .error (.closed operation) index := by
  cases isOpen : index.isOpen <;>
    simp [requireOpen, EStateM.run, bind, EStateM.bind, get, getThe, MonadStateOf.get, EStateM.get, isOpen]
  · rfl
  · rfl

theorem replace_run (document : Document) :
    (replace document).run index
      = .ok () { index with written := Index.replace index.analysis index.written document } :=
  rfl

/-- What comes behind an effect goes on with its value, or not at all. -/
theorem run_bind {α β : Type} (first : Effect α) (next : α → Effect β) :
    (first >>= next).run index
      = match first.run index with
        | .ok value after => (next value).run after
        | .error cause after => .error cause after := by
  simp only [EStateM.run, bind, EStateM.bind]
  cases first index <;> rfl

theorem run_ofExcept {α : Type} (result : Except Failure α) :
    (MonadExcept.ofExcept result : Effect α).run index
      = match result with
        | .ok value => .ok value index
        | .error cause => .error cause index := by
  cases result <;> rfl

theorem run_get : (get : Effect Index).run index = .ok index index :=
  rfl

theorem run_map {α β : Type} (value : α → β) (effect : Effect α) :
    (value <$> effect).run index
      = match effect.run index with
        | .ok found after => .ok (value found) after
        | .error cause after => .error cause after := by
  rw [map_eq_pure_bind, run_bind]
  rfl

/-- Nothing is caught of an effect that does not fail. -/
theorem run_try {α : Type} {first : Effect α} {value : α} {next : Index} (done : first.run index = .ok value next)
    (handle : Failure → Effect α) : (tryCatch first handle).run index = .ok value next := by
  have done : first index = .ok value next := done
  simp only [EStateM.run, tryCatch, tryCatchThe, MonadExceptOf.tryCatch, EStateM.tryCatch, done]

/-- On a closed index a write fails before its first effect; on an open one it is carried out and ends. -/
theorem underLock_run {α : Type} (operation : String) {write : Effect α} {value : α} {next : Index}
    (written : write.run index = .ok value next) :
    (underLock operation write).run index
      = if index.isOpen then .ok value (next.afterWrite next.written) else .error (.closed operation) index := by
  rw [underLock, run_bind, requireOpen_run]
  cases isOpen : index.isOpen with
  | false => rfl
  | true =>
      refine run_try ?_ _
      rw [run_bind, written]
      unfold Index.afterWrite
      cases atOnce : next.config.commitsAtOnce with
      | false =>
          simp only [run_bind, run_get, atOnce]
          rfl
      | true =>
          simp only [run_bind, run_get, atOnce]
          rfl

theorem replace_both_run (content : ContentDocument) (flags : FlagsDocument) :
    (do replace (.content content); replace (.flags flags) : Effect Unit).run index
      = .ok () { index with
          written := Index.replace index.analysis (Index.replace index.analysis index.written (.content content))
            (.flags flags) } :=
  rfl

/-- How a function of an index ends: a failure leaves the index as it was. -/
def outcome {α : Type} (index : Index) : Except Failure (Index × α) → EStateM.Result Failure Index α
  | .ok (next, value) => .ok value next
  | .error cause => .error cause index

theorem add_run (told : index.decoder = teller.decoder) (mailbox : Mailbox) (message : Message) :
    (add teller mailbox message).run index = outcome index ((index.add mailbox message).map (·, ())) := by
  unfold add Index.add
  by_cases foreign : message.mailbox ≠ mailbox
  · simp only [if_pos foreign]
    rfl
  · simp only [if_neg foreign, run_bind, content_run, MessageDocuments.ofMessage, told]
    cases ContentDocument.ofMessage teller.decoder message with
    | error cause => rfl
    | ok document =>
        simp only [Index.put_eq]
        refine (underLock_run "add" (replace_both_run document (.ofMessage message))).trans ?_
        split <;> rfl

theorem forM_replace_run (mailbox : Mailbox) (flags : Flags) (uids : List Uid) :
    (forM uids fun uid => replace (.flags ⟨mailbox, uid, flags⟩) : Effect Unit).run index
      = .ok () { index with
          written := uids.foldl
            (fun snapshot uid => Index.replace index.analysis snapshot (.flags ⟨mailbox, uid, flags⟩))
            index.written } := by
  induction uids generalizing index with
  | nil => rfl
  | cons uid rest ih =>
      rw [List.forM_cons, run_bind, replace_run]
      exact ih

/-- Commits what is pending before anything is looked up. -/
theorem run_pending {α : Type} (next : Effect α) :
    (do if (← get).isDirty then commit
        next : Effect α).run index = next.run index.commitPending := by
  rw [run_bind, run_get]
  unfold Index.commitPending
  cases pending : index.isDirty with
  | false => simp [pending]
  | true =>
      simp [pending]
      rfl

theorem update_run (mailbox : Mailbox) (range : UidRange) (flags : Flags) :
    (update mailbox range flags).run index = outcome index (index.update mailbox range flags) := by
  have written : (do
      if (← get).isDirty then commit
      let uids := (← get).committed.uids (Index.flagsQuery mailbox range)
      forM uids fun uid => replace (.flags ⟨mailbox, uid, flags⟩)
      pure uids.length : Effect Nat).run index
        = .ok (index.commitPending.committed.uids (Index.flagsQuery mailbox range)).length
          { index.commitPending with written := index.commitPending.reflagged mailbox range flags } := by
    rw [run_pending, run_bind, run_get]
    simp only [run_bind, forM_replace_run]
    rfl
  rw [Index.update_eq]
  refine (underLock_run "update" written).trans ?_
  split <;> rfl

theorem delete_run (mailbox : Mailbox) (range : UidRange) :
    (delete mailbox range).run index = outcome index ((index.delete mailbox range).map (·, ())) := by
  have written : (remove (Index.rangeQuery mailbox range)).run index
      = .ok () { index with
          written := index.written.filter fun entry => ! (Index.rangeQuery mailbox range).selects entry } := rfl
  rw [Index.delete_eq]
  refine (underLock_run "delete" written).trans ?_
  split <;> rfl

theorem flush_run : flush.run index = outcome index (index.flush.map (·, ())) := by
  rw [flush, run_bind, requireOpen_run, Index.flush_eq]
  unfold Index.commitPending
  cases isOpen : index.isOpen with
  | false => rfl
  | true =>
      cases pending : index.isDirty with
      | false =>
          simp [pending]
          rfl
      | true =>
          simp [pending]
          rfl

theorem search_run (mailbox : Mailbox) (criterion : Criterion) :
    (search mailbox criterion).run index = outcome index ((index.search mailbox criterion).map (index, ·)) := by
  unfold search Index.search
  cases criterion.validate with
  | error cause => rfl
  | ok valid =>
      cases translated : criterion.translate index.committed mailbox index.analysis with
      | error cause =>
          simp only [run_bind, run_ofExcept, run_get, translated]
          rfl
      | ok query =>
          simp only [run_bind, run_ofExcept, run_get, translated]
          rfl

end Effect

/-! ## Requests -/

/-- What may be asked of an index. -/
inductive Request where
  | call (operation : Operation)
  | search (mailbox : Mailbox) (criterion : Criterion)

/-- What an index says to a request that it carries out: how many messages it found, or which. -/
inductive Reply where
  | told (count : Option Nat)
  | found (uids : List Uid)

namespace Request

/-- A request as it runs. -/
def effect (teller : Teller) : Request → Effect Reply
  | call (.add mailbox message) => (fun () => .told none) <$> Effect.add teller mailbox message
  | call (.update mailbox range flags) => (fun count => .told (some count)) <$> Effect.update mailbox range flags
  | call (.delete mailbox range) => (fun () => .told none) <$> Effect.delete mailbox range
  | call .flush => (fun () => .told none) <$> Effect.flush
  | call .requestCommit => (fun () => .told none) <$> modify Index.requestCommit
  | call .close => (fun () => .told none) <$> modify Index.close
  | search mailbox criterion => .found <$> Effect.search mailbox criterion

/-- The index after a request, and its reply, by the functions of the index. -/
def answer (index : Index) : Request → Index × Except Failure Reply
  | call operation => ((index.apply operation).1, (index.apply operation).2.map .told)
  | search mailbox criterion => (index, (index.search mailbox criterion).map .found)

/-- The index that a request leaves behind, and its reply, as it runs. -/
def take (teller : Teller) (index : Index) (request : Request) : Index × Except Failure Reply :=
  match (request.effect teller).run index with
  | .ok reply next => (next, .ok reply)
  | .error cause left => (left, .error cause)

variable {teller : Teller} {index : Index}

/-- A request as it runs is what the functions of the index say. -/
theorem take_eq (told : index.decoder = teller.decoder) (request : Request) :
    request.take teller index = request.answer index := by
  cases request with
  | search mailbox criterion =>
      simp only [take, effect, answer, Effect.run_map, Effect.search_run]
      cases index.search mailbox criterion <;> rfl
  | call operation =>
      cases operation with
      | add mailbox message =>
          simp only [take, effect, answer, Index.apply, Effect.run_map, Effect.add_run told]
          cases index.add mailbox message <;> rfl
      | update mailbox range flags =>
          simp only [take, effect, answer, Index.apply, Effect.run_map, Effect.update_run]
          cases index.update mailbox range flags <;> rfl
      | delete mailbox range =>
          simp only [take, effect, answer, Index.apply, Effect.run_map, Effect.delete_run]
          cases index.delete mailbox range <;> rfl
      | flush =>
          simp only [take, effect, answer, Index.apply, Effect.run_map, Effect.flush_run]
          cases index.flush <;> rfl
      | requestCommit => rfl
      | close => rfl

/-- The index after some requests. -/
def after (teller : Teller) (index : Index) (requests : List Request) : Index :=
  requests.foldl (fun index request => (request.take teller index).1) index

/-- The replies to some requests. -/
def replies (teller : Teller) (index : Index) : List Request → List (Except Failure Reply)
  | [] => []
  | request :: rest => (request.take teller index).2 :: replies teller (request.take teller index).1 rest

theorem after_append (teller : Teller) (index : Index) (before later : List Request) :
    after teller index (before ++ later) = after teller (after teller index before) later :=
  List.foldl_append

theorem replies_append (teller : Teller) (index : Index) (before later : List Request) :
    replies teller index (before ++ later)
      = replies teller index before ++ replies teller (after teller index before) later := by
  induction before generalizing index with
  | nil => rfl
  | cons request rest ih =>
      rw [List.cons_append, replies, ih]
      rfl

theorem length_replies (teller : Teller) (index : Index) (requests : List Request) :
    (replies teller index requests).length = requests.length := by
  induction requests generalizing index with
  | nil => rfl
  | cons request rest ih => rw [replies, List.length_cons, List.length_cons, ih]

/-- An index keeps its decoder. -/
theorem decoder_answer (index : Index) (request : Request) : (request.answer index).1.decoder = index.decoder := by
  have pending : index.commitPending.decoder = index.decoder := by
    unfold Index.commitPending
    split <;> rfl
  cases request with
  | search mailbox criterion => rfl
  | call operation =>
      rw [answer]
      cases operation with
      | add mailbox message =>
          rw [Index.apply]
          split
          · next next added => exact Index.decoder_of_add added
          · rfl
      | update mailbox range flags =>
          rw [Index.apply]
          split
          · next next count done => rw [(Index.update_ok done).2.1, Index.decoder_afterWrite, pending]
          · rfl
      | delete mailbox range =>
          rw [Index.apply]
          split
          · next next done => rw [(Index.delete_ok done).2, Index.decoder_afterWrite]
          · rfl
      | flush =>
          rw [Index.apply]
          split
          · next next done => rw [(Index.flush_ok done).2, pending]
          · rfl
      | requestCommit =>
          simp only [Index.apply, Index.requestCommit]
          split
          · exact pending
          · rfl
      | close =>
          simp only [Index.apply, Index.close]
          split
          · exact pending
          · rfl

theorem decoder_after (told : index.decoder = teller.decoder) (requests : List Request) :
    (after teller index requests).decoder = teller.decoder := by
  induction requests generalizing index with
  | nil => exact told
  | cons request rest ih =>
      have kept : (request.take teller index).1.decoder = teller.decoder := by
        rw [take_eq told, decoder_answer, told]
      exact ih kept

/-! ## Requests that are refused -/

/-- A request that an index must refuse, why, and the code of the failure. -/
inductive Refused (teller : Teller) (index : Index) : Request → Failure → ErrorCode → Prop where
  /-- The message belongs to another mailbox. -/
  | foreign {mailbox : Mailbox} {message : Message} (stray : message.mailbox ≠ mailbox) :
      Refused teller index (.call (.add mailbox message))
        (.foreignMailbox message.uid message.mailbox mailbox) .invalidParameter
  /-- The decoder gives up, after whatever events and with whatever cause. -/
  | undecodable {mailbox : Mailbox} {message : Message} {cause : Failure} (own : message.mailbox = mailbox)
      (fails : (teller message.content).fault = some cause) :
      Refused teller index (.call (.add mailbox message))
        (.undecodable message.uid message.mailbox cause) .indexingFailed
  | closedAdd {mailbox : Mailbox} {message : Message} (own : message.mailbox = mailbox)
      (decodes : (teller message.content).fault = none) (closed : index.isOpen = false) :
      Refused teller index (.call (.add mailbox message)) (.closed "add") .indexUnavailable
  | closedUpdate {mailbox : Mailbox} {range : UidRange} {flags : Flags} (closed : index.isOpen = false) :
      Refused teller index (.call (.update mailbox range flags)) (.closed "update") .indexUnavailable
  | closedDelete {mailbox : Mailbox} {range : UidRange} (closed : index.isOpen = false) :
      Refused teller index (.call (.delete mailbox range)) (.closed "delete") .indexUnavailable
  | closedFlush (closed : index.isOpen = false) :
      Refused teller index (.call .flush) (.closed "flush") .indexUnavailable
  /-- The criterion is not valid. -/
  | invalid {mailbox : Mailbox} {criterion : Criterion} {cause : Failure}
      (offends : criterion.validate = .error cause) :
      Refused teller index (.search mailbox criterion) cause cause.code

theorem Refused.code {request : Request} {cause : Failure} {code : ErrorCode}
    (refused : Refused teller index request cause code) : cause.code = code := by
  cases refused <;> rfl

/-- A refused request fails, and has had no effect on the index by then. -/
theorem Refused.take {request : Request} {cause : Failure} {code : ErrorCode}
    (refused : Refused teller index request cause code) : request.take teller index = (index, .error cause) := by
  cases refused with
  | foreign stray =>
      simp only [Request.take, effect, Effect.run_map, Effect.add, if_pos stray]
      rfl
  | undecodable own fails =>
      simp only [Request.take, effect, Effect.run_map, Effect.add, own, ne_eq, not_true, if_false, Effect.run_bind,
        Effect.content_run, ContentDocument.ofMessage, Teller.decoder, fails]
  | closedAdd own decodes closed =>
      simp only [Request.take, effect, Effect.run_map, Effect.add, own, ne_eq, not_true, if_false, Effect.run_bind,
        Effect.content_run, ContentDocument.ofMessage, Teller.decoder, decodes,
        Effect.underLock_run "add" (Effect.replace_both_run _ _), closed]
      rfl
  | closedUpdate closed =>
      simp only [Request.take, effect, Effect.run_map, Effect.update_run, Index.update_eq, closed]
      rfl
  | closedDelete closed =>
      simp only [Request.take, effect, Effect.run_map, Effect.delete_run, Index.delete_eq, closed]
      rfl
  | closedFlush closed =>
      simp only [Request.take, effect, Effect.run_map, Effect.flush_run, Index.flush_eq, closed]
      rfl
  | invalid offends =>
      simp only [Request.take, effect, Effect.run_map, Effect.search_run, Index.search, offends]
      rfl

/--
A request that fails with a cause, among others: the index stays as it was, in what is committed, what is written
and whether something is pending, and the other requests are answered as if it had not been made.
-/
structure LeavesNoTrace (teller : Teller) (index : Index) (before later : List Request) (request : Request)
    (cause : Failure) : Prop where
  state : request.take teller (after teller index before) = (after teller index before, .error cause)
  /-- The functions of the index say the same. -/
  answer : request.answer (after teller index before) = (after teller index before, .error cause)
  reply : (replies teller index (before ++ request :: later))[before.length]? = some (.error cause)
  others : (replies teller index (before ++ request :: later)).eraseIdx before.length
    = replies teller index (before ++ later)
  last : after teller index (before ++ request :: later) = after teller index (before ++ later)

/-- A request that is refused, in any state that requests lead to, fails with its code and leaves no trace. -/
theorem refused_leavesNoTrace (told : index.decoder = teller.decoder) (before later : List Request)
    {request : Request} {cause : Failure} {code : ErrorCode}
    (refused : Refused teller (after teller index before) request cause code) :
    cause.code = code ∧ LeavesNoTrace teller index before later request cause := by
  have state := refused.take
  have length := length_replies teller index before
  have all : replies teller index (before ++ request :: later)
      = replies teller index before ++ .error cause :: replies teller (after teller index before) later := by
    rw [replies_append, replies, state]
  refine ⟨refused.code, state, ?_, ?_, ?_, ?_⟩
  · rw [← take_eq (decoder_after told before), state]
  · rw [all, ← length, List.getElem?_append_right le_rfl, Nat.sub_self]
    rfl
  · rw [all, replies_append, ← length, List.eraseIdx_append_of_length_le le_rfl, Nat.sub_self]
    rfl
  · rw [after_append, after_append, after, List.foldl_cons, state]
    rfl

/-- A decoder that gives up on messages with bytes, after a header and with a cause of another code. -/
def halting : Teller := fun content =>
  ⟨[.header ⟨"Subject", "hello", none⟩], if content = [] then none else some (.headerDate "Subject")⟩

/-- A message of the mailbox "inbox". -/
def letter (uid : Uid) (content : Bytes) : Message where
  mailbox := ⟨"inbox"⟩
  uid := uid
  date := .epoch
  modSeq := 0
  flags := .empty
  content := content

/-- An empty index that commits once in a while. -/
def deferredIndex : Index :=
  .ofSnapshot { Config.small with commitInterval := some 60 } halting.decoder []

/-- With a write pending, a message is only half heard; then the write is committed and searched for. -/
theorem refused_leavesNoTrace_pending :
    (after halting deferredIndex [.call (.add ⟨"inbox"⟩ (letter 1 []))]).isDirty = true
      ∧ (Failure.undecodable 2 ⟨"inbox"⟩ (.headerDate "Subject")).code = .indexingFailed
      ∧ LeavesNoTrace halting deferredIndex
        [.call (.add ⟨"inbox"⟩ (letter 1 []))] [.call .flush, .search ⟨"inbox"⟩ .all]
        (.call (.add ⟨"inbox"⟩ (letter 2 [0]))) (.undecodable 2 ⟨"inbox"⟩ (.headerDate "Subject")) := by
  have refused : Refused halting (after halting deferredIndex [.call (.add ⟨"inbox"⟩ (letter 1 []))])
      (.call (.add ⟨"inbox"⟩ (letter 2 [0]))) (.undecodable 2 ⟨"inbox"⟩ (.headerDate "Subject")) .indexingFailed :=
    .undecodable rfl rfl
  exact ⟨rfl, refused_leavesNoTrace rfl _ _ refused⟩

end Request

end Letterbox
