import Letterbox.Proofs.Deferral
import Letterbox.Proofs.Refinement

/-!
# Searches for flags

A flag is looked up by its token, and a system flag shares its token with one keyword. Main statement: after
any calls, a search for a flag that is set lists the messages to which the flag was assigned last, and a
search for one that is not set lists the others, unless a message has the flag's twin in its place.
-/

namespace Letterbox

/-! ## Tokens of flags -/

/-- The other flag with the same token: a system flag and the keyword spelled like its token are twins. -/
def Flag.twin? : Flag → Option Flag
  | system flag => some (keyword flag.token)
  | keyword name => (SystemFlag.all.find? (·.token == name)).map system

theorem SystemFlag.token_inj {one other : SystemFlag} : one.token = other.token ↔ one = other := by
  cases one <;> cases other <;> decide

theorem SystemFlag.find?_token {flag : SystemFlag} {name : String} :
    all.find? (·.token == name) = some flag ↔ flag.token = name := by
  constructor
  · intro found
    have same := List.find?_some found
    exact beq_iff_eq.mp same
  · rintro rfl
    cases flag <;> rfl

/-- Flags with one token are the same or twins. -/
theorem Flag.token_eq_iff {one other : Flag} :
    other.token = one.token ↔ other = one ∨ one.twin? = some other := by
  cases one with
  | system flag =>
      cases other with
      | system second => simp [token, twin?, SystemFlag.token_inj]
      | keyword name => simp [token, twin?, eq_comm]
  | keyword name =>
      cases other with
      | system flag => simp [token, twin?, SystemFlag.find?_token]
      | keyword second => simp [token, twin?]

/-- What is indexed of the flags of a message are the tokens that are short enough. -/
theorem IndexedMessage.mem_tokens {message : IndexedMessage} {term : Term} :
    term ∈ message.tokens
      ↔ (∃ flag ∈ message.flags.flags.toList, flag.token.toList = term) ∧ isKept term = true := by
  rw [tokens, Document.mem_terms]
  refine and_congr_left fun _ => ?_
  simp [Document.values, Document.flagsValues, Flags.tokens, Analysis.termsOf, eq_comm]

/-! ## Flags that calls assign -/

/-- The flags of the messages there are, by mailbox and number. -/
abbrev Assignment := Mailbox → Uid → Option Flags

/-- The flags after a call that succeeds. -/
def Assignment.after (held : Assignment) : Operation → Assignment
  | .add mailbox message => fun other uid =>
    if other = mailbox ∧ uid = message.uid then some message.flags else held other uid
  | .update mailbox range flags => fun other uid =>
    if other = mailbox ∧ range.contains uid = true then (held other uid).map fun _ => flags
    else held other uid
  | .delete mailbox range => fun other uid =>
    if other = mailbox ∧ range.contains uid = true then none else held other uid
  | .flush | .requestCommit | .close => held

/-- The flags after a call with an answer: a call that fails assigns none. -/
def Assignment.afterAnswer (held : Assignment) (operation : Operation) : Answer → Assignment
  | .ok _ => held.after operation
  | .error _ => held

namespace Ledger

/-- The flags of the messages in a ledger. -/
def flags (ledger : Ledger) : Assignment :=
  fun mailbox uid => (ledger mailbox uid).map HeldMessage.flags

variable (ledger : Ledger) (mailbox : Mailbox) (range : UidRange)

theorem flags_put (message : Message) (content : ContentDocument) :
    (ledger.put mailbox message.uid ⟨content, message.flags⟩).flags
      = ledger.flags.after (.add mailbox message) := by
  funext other uid
  simp only [flags, put, Assignment.after]
  split <;> rfl

theorem flags_reflag (set : Flags) :
    (ledger.reflag mailbox range set).flags = ledger.flags.after (.update mailbox range set) := by
  funext other uid
  simp only [flags, reflag, Assignment.after]
  split
  · rw [Option.map_map, Option.map_map]
    rfl
  · rfl

theorem flags_remove :
    (ledger.remove mailbox range).flags = ledger.flags.after (.delete mailbox range) := by
  funext other uid
  simp only [flags, remove, Assignment.after]
  split <;> rfl

end Ledger

/-- The keys of what a call adds are short enough to be indexed. -/
def Operation.KeysFit : Operation → Prop
  | .add mailbox message => DocumentLabel.Fits ⟨.flags, mailbox, message.uid⟩
  | _ => True

namespace Index

/-- The flags that some calls leave to the messages. -/
def assigned (index : Index) (held : Assignment) : List Operation → Assignment
  | [] => held
  | operation :: rest =>
    (index.apply operation).1.assigned (held.afterAnswer operation (index.apply operation).2) rest

variable {index : Index} {operation : Operation}

theorem Reachable.apply (reachable : Reachable index) (fits : operation.KeysFit) :
    Reachable (index.apply operation).1 := by
  cases operation with
  | add mailbox message =>
      rw [Index.apply]
      split
      · next next done => exact reachable.added fits done
      · exact reachable
  | update mailbox range flags =>
      rw [Index.apply]
      split
      · next next count done => exact reachable.updated done
      · exact reachable
  | delete mailbox range =>
      rw [Index.apply]
      split
      · next next done => exact reachable.deleted done
      · exact reachable
  | flush =>
      rw [Index.apply]
      split
      · next next done => exact reachable.flushed done
      · exact reachable
  | requestCommit => exact reachable.requested
  | close => exact reachable.closed

/-- A call leaves the messages with the flags that it assigns. -/
theorem Kept.flags_apply (kept : index.Kept) (atOnce : index.config.commitsAtOnce = true)
    (fits : operation.KeysFit) :
    (index.apply operation).1.ledger.flags
      = index.ledger.flags.afterAnswer operation (index.apply operation).2 := by
  have clean := kept.tidy atOnce
  cases operation with
  | add mailbox message =>
      rw [Index.apply]
      split
      · next next done =>
        obtain ⟨content, -, entered⟩ := kept.ledger_add atOnce fits done
        exact (congrArg Ledger.flags entered).trans (index.ledger.flags_put mailbox message content)
      · rfl
  | update mailbox range flags =>
      rw [Index.apply]
      split
      · next next count done =>
        have changed := (kept.ledger_update atOnce done).1
        exact (congrArg Ledger.flags changed).trans (index.ledger.flags_reflag mailbox range flags)
      · rfl
  | delete mailbox range =>
      rw [Index.apply]
      split
      · next next done =>
        have changed := (kept.ledger_delete atOnce done).1
        exact (congrArg Ledger.flags changed).trans (index.ledger.flags_remove mailbox range)
      · rfl
  | flush =>
      rw [Index.apply]
      split
      · next next done =>
        rw [(flush_ok done).2, commitPending_of_clean clean]
        rfl
      · rfl
  | requestCommit =>
      rw [Index.apply, requestCommit, commitPending_of_clean clean, ite_self]
      rfl
  | close =>
      rw [Index.apply, close, commitPending_of_clean clean]
      split <;> rfl

/-- Searches see the flags that all calls so far have left. -/
theorem Reachable.flags_run (reachable : Reachable index) (atOnce : index.config.commitsAtOnce = true)
    {operations : List Operation} (fits : ∀ operation ∈ operations, operation.KeysFit) :
    (index.run operations).ledger.flags = index.assigned index.ledger.flags operations := by
  induction operations generalizing index with
  | nil => rfl
  | cons operation rest ih =>
      obtain ⟨own, later⟩ := List.forall_mem_cons.mp fits
      have next := reachable.apply own
      have immediate : (index.apply operation).1.config.commitsAtOnce = true := by
        rw [config_apply]
        exact atOnce
      have step := reachable.kept.flags_apply atOnce own
      rw [assigned, ← step]
      exact ih next immediate later

theorem Reachable.run (reachable : Reachable index) {operations : List Operation}
    (fits : ∀ operation ∈ operations, operation.KeysFit) : Reachable (index.run operations) := by
  induction operations generalizing index with
  | nil => exact reachable
  | cons operation rest ih =>
      obtain ⟨own, later⟩ := List.forall_mem_cons.mp fits
      exact ih (reachable.apply own) later

end Index

/-! ## Messages with a flag -/

/-- Among some flags is one with the token of a flag. -/
def Flags.Shows (flags : Flags) (wanted : Flag) : Prop :=
  wanted ∈ flags.toList ∨ ∃ twin, wanted.twin? = some twin ∧ twin ∈ flags.toList

/-- No message of a mailbox has the twin of a flag without the flag itself. -/
def Assignment.NoTwinAlone (held : Assignment) (mailbox : Mailbox) (wanted : Flag) : Prop :=
  ∀ uid flags, held mailbox uid = some flags →
    ∀ twin, wanted.twin? = some twin → twin ∈ flags.toList → wanted ∈ flags.toList

theorem IndexedMessage.token_mem_tokens {message : IndexedMessage} {wanted : Flag}
    (short : isKept wanted.token.toList = true) :
    wanted.token.toList ∈ message.tokens ↔ message.flags.flags.Shows wanted := by
  rw [mem_tokens, and_iff_left short]
  constructor
  · rintro ⟨flag, listed, same⟩
    rcases Flag.token_eq_iff.mp (String.toList_inj.mp same) with rfl | twin
    · exact Or.inl listed
    · exact Or.inr ⟨flag, twin, listed⟩
  · rintro (listed | ⟨twin, paired, listed⟩)
    · exact ⟨wanted, listed, rfl⟩
    · exact ⟨twin, listed, String.toList_inj.mpr (Flag.token_eq_iff.mpr (Or.inr paired))⟩

theorem Snapshot.exists_entry {snapshot : Snapshot} {document : Document}
    (listed : document ∈ snapshot.documents) :
    ∃ analysis, Entry.ofDocument analysis document ∈ snapshot := by
  obtain ⟨⟨_, analysis, _, rfl⟩, present, rfl⟩ := List.mem_map.mp listed
  exact ⟨analysis, present⟩

/-- The messages that a snapshot holds are those of its ledger. -/
theorem Snapshot.Paired.exists_holds_iff {snapshot : Snapshot} (paired : snapshot.Paired)
    {mailbox : Mailbox} {uid : Uid} {meets : Flags → Prop} :
    (∃ message, snapshot.Holds message ∧ message.content.mailbox = mailbox ∧ message.content.uid = uid
        ∧ meets message.flags.flags)
      ↔ ∃ flags, snapshot.ledger.flags mailbox uid = some flags ∧ meets flags := by
  constructor
  · rintro ⟨message, held, rfl, rfl, meets⟩
    have first : .content message.content ∈ snapshot.documents := List.mem_map_of_mem held.content
    have second : .flags message.flags ∈ snapshot.documents := List.mem_map_of_mem held.flags
    have entry : snapshot.ledger message.content.mailbox message.content.uid
        = some ⟨message.content, message.flags.flags⟩ := by
      refine paired.ledger_eq_some.mpr ⟨⟨rfl, rfl⟩, first, ?_⟩
      rw [← held.mailbox, ← held.uid]
      exact second
    refine ⟨message.flags.flags, ?_, meets⟩
    rw [Ledger.flags, entry]
    rfl
  · rintro ⟨flags, found, meets⟩
    obtain ⟨held, entry, rfl⟩ := Option.map_eq_some_iff.mp found
    obtain ⟨⟨rfl, rfl⟩, first, second⟩ := paired.ledger_eq_some.mp entry
    obtain ⟨analysis, listed⟩ := exists_entry first
    obtain ⟨other, present⟩ := exists_entry second
    exact ⟨⟨held.content, analysis, ⟨_, _, held.flags⟩, other⟩, ⟨listed, present, rfl, rfl⟩, rfl, rfl, meets⟩

namespace Index

variable {index : Index} {wanted : Flag}

/-- A search for a flag lists the messages that show it, or those that do not. -/
theorem Kept.search_flag (kept : index.Kept) (short : isKept wanted.token.toList = true)
    (mailbox : Mailbox) (isSet : Bool) :
    ∃ uids : List Uid, uids.Pairwise (· < ·)
      ∧ (∀ uid, uid ∈ uids ↔ ∃ flags, index.ledger.flags mailbox uid = some flags
        ∧ (isSet = true ↔ flags.Shows wanted))
      ∧ index.search mailbox (.flag wanted isSet) = .ok (uids.take index.config.maxResults) := by
  have sound := kept.settled.committed
  have valid : (Criterion.flag wanted isSet).validate = .ok () := rfl
  obtain ⟨query, translated, answer⟩ := index.search_eq mailbox valid
  rw [Nat.max_eq_left (maxResults_of_valid kept.valid)] at answer
  refine ⟨_, strict_uids_query sound.paired translated, fun uid => ?_, answer⟩
  have meets : index.IsMatch mailbox (.flag wanted isSet) uid
      ↔ ∃ flags, index.ledger.flags mailbox uid = some flags ∧ (isSet = true ↔ flags.Shows wanted) := by
    rw [ledger, ← sound.paired.exists_holds_iff, IsMatch]
    simp only [Criterion.Meets, IndexedMessage.token_mem_tokens short]
  rw [mem_uids_query sound.paired translated, meets, and_iff_right_iff_imp]
  -- the key of a message that is there is indexed, so the name of its mailbox is
  rintro ⟨flags, found, -⟩
  obtain ⟨held, entry, -⟩ := Option.map_eq_some_iff.mp found
  have label := Snapshot.label_mem_labels (sound.paired.ledger_eq_some.mp entry).2.2
  exact DocumentLabel.Fits.mailbox (sound.fits _ label)

/-- The flags that calls on a new index leave to its messages. -/
def assignedFrom (config : Config) (decoder : Mime.Decoder) (operations : List Operation) : Assignment :=
  (ofSnapshot config decoder []).assigned (fun _ _ => none) operations

/--
After any calls on an index that commits each write at once, a search for a flag that is set lists exactly
the messages to which the flag was assigned last, and a search for one that is not set lists the others, if
no message has the twin of the flag alone.
-/
theorem search_flag_exact {config : Config} (decoder : Mime.Decoder) (valid : config.validateNumbers = .ok ())
    (atOnce : config.commitsAtOnce = true) {operations : List Operation}
    (fits : ∀ operation ∈ operations, operation.KeysFit) {wanted : Flag}
    (short : isKept wanted.token.toList = true) {mailbox : Mailbox}
    (alone : (assignedFrom config decoder operations).NoTwinAlone mailbox wanted) (isSet : Bool) :
    ∃ uids : List Uid, uids.Pairwise (· < ·)
      ∧ (∀ uid, uid ∈ uids ↔ ∃ flags, assignedFrom config decoder operations mailbox uid = some flags
        ∧ (isSet = true ↔ wanted ∈ flags.toList))
      ∧ ((ofSnapshot config decoder []).run operations).search mailbox (.flag wanted isSet)
        = .ok (uids.take config.maxResults) := by
  have opened : Reachable (ofSnapshot config decoder []) := .opened config decoder valid
  have kept := (opened.run fits).kept
  have flags : ((ofSnapshot config decoder []).run operations).ledger.flags
      = assignedFrom config decoder operations := opened.flags_run atOnce fits
  obtain ⟨uids, strict, listed, answer⟩ := kept.search_flag short mailbox isSet
  rw [config_run] at answer
  refine ⟨uids, strict, fun uid => ?_, answer⟩
  rw [listed, flags]
  refine exists_congr fun set => and_congr_right fun found => ?_
  have shown : set.Shows wanted ↔ wanted ∈ set.toList := by
    constructor
    · rintro (own | ⟨twin, paired, present⟩)
      · exact own
      · exact alone uid set found twin paired present
    · exact Or.inl
  rw [shown]

/-- A letter comes and is marked as seen. -/
def markSeen : List Operation :=
  [.add emptyLetter.mailbox emptyLetter, .update emptyLetter.mailbox .all (.ofList [.system .seen])]

theorem search_flag_exact_markSeen :
    ∃ uids : List Uid, uids.Pairwise (· < ·)
      ∧ (∀ uid, uid ∈ uids ↔ ∃ flags, assignedFrom .small (fun _ => .ok []) markSeen ⟨"inbox"⟩ uid = some flags
        ∧ (true = true ↔ .system .seen ∈ flags.toList))
      ∧ ((ofSnapshot .small (fun _ => .ok []) []).run markSeen).search ⟨"inbox"⟩ (.flag (.system .seen) true)
        = .ok (uids.take 100000) := by
  have fits : ∀ operation ∈ markSeen, operation.KeysFit := by
    intro operation listed
    simp only [markSeen, List.mem_cons, List.not_mem_nil, or_false] at listed
    rcases listed with rfl | rfl
    · exact fits_inbox .flags emptyLetter.uid
    · trivial
  have alone : (assignedFrom .small (fun _ => .ok []) markSeen).NoTwinAlone ⟨"inbox"⟩ (.system .seen) := by
    intro uid flags found twin paired present
    have marked : assignedFrom .small (fun _ => .ok []) markSeen ⟨"inbox"⟩ uid
        = if (⟨"inbox"⟩ : Mailbox) = ⟨"inbox"⟩ ∧ UidRange.all.contains uid = true then
            (if (⟨"inbox"⟩ : Mailbox) = ⟨"inbox"⟩ ∧ uid = 1 then some Flags.empty else none).map
              fun _ => Flags.ofList [.system .seen]
          else if (⟨"inbox"⟩ : Mailbox) = ⟨"inbox"⟩ ∧ uid = 1 then some Flags.empty else none := rfl
    rw [marked] at found
    split at found
    · obtain ⟨former, -, rfl⟩ := Option.map_eq_some_iff.mp found
      decide
    · split at found
      · obtain rfl := Option.some.inj found
        simp [Flags.empty] at present
      · simp at found
  exact search_flag_exact (fun _ => .ok []) rfl rfl fits (by decide) alone true

/-- A letter comes with a keyword that is spelled like the token of a system flag. -/
def keywordLikeSeen : List Operation :=
  [.add emptyLetter.mailbox { emptyLetter with flags := .ofList [.keyword "\\SEEN"] }]

/-- Such a keyword answers for the system flag. -/
theorem search_flag_answers_for_keyword :
    Config.small.validateNumbers = .ok () ∧ Config.small.commitsAtOnce = true
      ∧ (∀ operation ∈ keywordLikeSeen, operation.KeysFit)
      ∧ isKept (Flag.system .seen).token.toList = true
      ∧ assignedFrom .small (fun _ => .ok []) keywordLikeSeen ⟨"inbox"⟩ 1 = some (.ofList [.keyword "\\SEEN"])
      ∧ Flag.system .seen ∉ (Flags.ofList [.keyword "\\SEEN"]).toList
      ∧ ((ofSnapshot .small (fun _ => .ok []) []).run keywordLikeSeen).search ⟨"inbox"⟩
        (.flag (.system .seen) true) = .ok [1] := by
  refine ⟨rfl, rfl, ?_, by decide, rfl, by decide, by decide +kernel⟩
  intro operation listed
  rw [List.mem_singleton.mp listed]
  exact fits_inbox .flags emptyLetter.uid

end Index

end Letterbox
