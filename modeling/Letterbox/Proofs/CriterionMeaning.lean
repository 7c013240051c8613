import Letterbox.Proofs.DateBounds
import Letterbox.Proofs.Pairing
import Letterbox.Proofs.TermRange

/-!
# What criteria mean

A criterion is a condition on a message as an index holds it: on its content, on the terms indexed for its
content and on the tokens indexed for its flags. Main statement: the query for a criterion selects the
content of a message of the mailbox exactly when the message meets the criterion, and never a flags document.
-/

namespace Letterbox

/-- A message as an index holds it: its two documents, each with the analysis that gave its terms. -/
structure IndexedMessage where
  content : ContentDocument
  contentAnalysis : Analysis
  flags : FlagsDocument
  flagsAnalysis : Analysis

namespace IndexedMessage

/-- The entry of the content. -/
def contentEntry (message : IndexedMessage) : Entry :=
  .ofDocument message.contentAnalysis (.content message.content)

/-- The entry of the flags. -/
def flagsEntry (message : IndexedMessage) : Entry :=
  .ofDocument message.flagsAnalysis (.flags message.flags)

/-- The terms indexed for the content in a field. -/
def terms (message : IndexedMessage) (field : Field) : List Term :=
  (Document.content message.content).terms message.contentAnalysis field

/-- The tokens indexed for the flags. -/
def tokens (message : IndexedMessage) : List Term :=
  (Document.flags message.flags).terms message.flagsAnalysis .flags

/-- Each of some starts begins a term that is indexed in a field. -/
def HasStarts (message : IndexedMessage) (field : Field) (starts : List Term) : Prop :=
  ∀ start ∈ starts, ∃ term ∈ message.terms field, start <+: term

end IndexedMessage

/-- Both documents of a message are among the entries. -/
structure Snapshot.Holds (snapshot : Snapshot) (message : IndexedMessage) : Prop where
  content : message.contentEntry ∈ snapshot
  flags : message.flagsEntry ∈ snapshot
  mailbox : message.flags.mailbox = message.content.mailbox
  uid : message.flags.uid = message.content.uid

/-- Both dates are cut to the unit of the test and then compared. -/
def DateTest.Meets (message : IndexedMessage) (test : DateTest) : Prop :=
  test.order.holds (test.resolution.truncate message.content.date) (test.resolution.truncate test.date)
    = true

/-- The terms of a value, behind the name of a header, begin terms of that header. -/
def HeaderHas (analysis : Analysis) (message : IndexedMessage) (name value : String) : Prop :=
  message.HasStarts .header ((analysis.queryTerms value.toList).map (headerScope name.toList ++ ·))

/-- What a header test asks of a message. Dates of headers are not indexed. -/
def HeaderTest.Meets (analysis : Analysis) (message : IndexedMessage) (name : String) : HeaderTest → Prop
  | present => message.HasStarts .header [headerScope name.toList]
  | contains value => HeaderHas analysis message name value
  | address value =>
    match AddressRole.ofHeader? (String.ofList (Text.trim name.toList)) with
    | some role => message.HasStarts (.addresses role) (analysis.queryTerms value.toList)
    | none => HeaderHas analysis message name value
  | date _ => False

/-- What a text condition asks of a message: all terms in the body, or all of them in the headers. -/
def TextScope.Meets (analysis : Analysis) (message : IndexedMessage) (value : String) : TextScope → Prop
  | body => message.HasStarts .body (analysis.queryTerms value.toList)
  | full =>
    message.HasStarts .body (analysis.queryTerms value.toList)
      ∨ message.HasStarts .headers (analysis.queryTerms value.toList)

namespace Criterion

mutual

/-- Whether a message meets a criterion. -/
def Meets (analysis : Analysis) (message : IndexedMessage) : Criterion → Prop
  | all => True
  | uid ranges => ∃ range ∈ ranges, range.contains message.content.uid = true
  | size test => test.holds message.content.size = true
  | modSeq test => test.holds message.content.modSeq = true
  | internalDate test => test.Meets message
  | header name test => test.Meets analysis message name
  | flag wanted isSet => isSet = true ↔ wanted.token.toList ∈ message.tokens
  | text scope value => scope.Meets analysis message value
  | and criteria => MeetsEvery analysis message criteria
  | or criteria => MeetsSome analysis message criteria
  | nor criteria => ¬ MeetsSome analysis message criteria

/-- Whether a message meets every one of some criteria. -/
def MeetsEvery (analysis : Analysis) (message : IndexedMessage) : List Criterion → Prop
  | [] => True
  | criterion :: rest => criterion.Meets analysis message ∧ MeetsEvery analysis message rest

/-- Whether a message meets any of some criteria. -/
def MeetsSome (analysis : Analysis) (message : IndexedMessage) : List Criterion → Prop
  | [] => False
  | criterion :: rest => criterion.Meets analysis message ∨ MeetsSome analysis message rest

end

end Criterion

/-! ## Queries that express a condition -/

/-- A query selects the content of those messages of a mailbox that meet a condition, and no flags. -/
structure Expresses (snapshot : Snapshot) (mailbox : Mailbox) (query : Query)
    (meets : IndexedMessage → Prop) : Prop where
  on_content : ∀ message, snapshot.Holds message → message.content.mailbox = mailbox →
    (query.selects message.contentEntry = true ↔ meets message)
  on_flags : ∀ entry : Entry, entry.document.kind = .flags → ¬ query.selects entry = true

theorem IndexedMessage.terms_contentEntry (message : IndexedMessage) (field : Field) :
    message.contentEntry.terms field = message.terms field :=
  message.contentEntry.terms_eq field

theorem IndexedMessage.terms_flagsEntry (message : IndexedMessage) :
    message.flagsEntry.terms .flags = message.tokens :=
  message.flagsEntry.terms_eq .flags

/-- The fields in which only contents have values. -/
def Field.IsOfContent (field : Field) : Prop :=
  ∀ document, Document.flagsValues document field = []

theorem Entry.values_of_flags {entry : Entry} {field : Field} (only : field.IsOfContent)
    (flags : entry.document.kind = .flags) : entry.document.values field = [] := by
  cases held : entry.document with
  | content document => simp [held, Document.kind] at flags
  | flags document => exact only document

namespace Expresses

variable {snapshot : Snapshot} {mailbox : Mailbox}

theorem allMessages : Expresses snapshot mailbox .allMessages fun _ => True := by
  refine ⟨fun message _ _ => ?_, fun entry flags => ?_⟩
  · simp [IndexedMessage.contentEntry, Entry.ofDocument, Document.kind]
  · simp [flags]

theorem messagesIn (ranges : List UidRange) :
    Expresses snapshot mailbox (.messagesIn ranges)
      fun message => ∃ range ∈ ranges, range.contains message.content.uid = true := by
  refine ⟨fun message _ _ => ?_, fun entry flags => ?_⟩
  · rw [Query.selects_messagesIn]
    exact and_iff_left rfl
  · rw [Query.selects_messagesIn, flags]
    simp

/-- A range of numbers in a field of which each content has one number. -/
theorem numbers {field : Field} (only : field.IsOfContent) (least most : Int)
    (number : IndexedMessage → Int) {meets : IndexedMessage → Prop}
    (single : ∀ message : IndexedMessage,
      (Document.content message.content).numbers field = [number message])
    (inside : ∀ message, (least ≤ number message ∧ number message ≤ most) ↔ meets message) :
    Expresses snapshot mailbox (.numbers field least most) meets := by
  refine ⟨fun message _ _ => ?_, fun entry flags => ?_⟩
  · rw [Query.selects_numbers, ← inside message]
    simp [IndexedMessage.contentEntry, Entry.ofDocument, single]
  · rw [Query.selects_numbers, Document.numbers, entry.values_of_flags only flags]
    simp

theorem startingAll {field : Field} (only : field.IsOfContent) {starts : List Term}
    (some : starts ≠ []) :
    Expresses snapshot mailbox (.startingAll field starts)
      fun message => message.HasStarts field starts := by
  refine ⟨fun message _ _ => ?_, fun entry flags selected => ?_⟩
  · simp only [Query.startingAll, Query.selects_everyOf, List.forall_mem_map, Query.selects_starting,
      IndexedMessage.terms_contentEntry, IndexedMessage.HasStarts]
  · obtain ⟨start, listed⟩ := List.exists_mem_of_ne_nil starts some
    simp only [Query.startingAll, Query.selects_everyOf, List.forall_mem_map,
      Query.selects_starting] at selected
    obtain ⟨term, found, -⟩ := selected start listed
    rw [entry.terms_eq, Document.terms, entry.values_of_flags only flags] at found
    simp at found

theorem either {first second : Query} {meets other : IndexedMessage → Prop}
    (one : Expresses snapshot mailbox first meets) (two : Expresses snapshot mailbox second other) :
    Expresses snapshot mailbox (.either first second) fun message => meets message ∨ other message := by
  refine ⟨fun message held own => ?_, fun entry flags => ?_⟩
  · rw [Query.selects_either, one.on_content message held own, two.on_content message held own]
  · rw [Query.selects_either, not_or]
    exact ⟨one.on_flags entry flags, two.on_flags entry flags⟩

theorem equivalent {query : Query} {meets other : IndexedMessage → Prop}
    (expressed : Expresses snapshot mailbox query meets) (same : ∀ message, meets message ↔ other message) :
    Expresses snapshot mailbox query other :=
  ⟨fun message held own => (expressed.on_content message held own).trans (same message),
    expressed.on_flags⟩

/-! ## Conditions on one field -/

theorem numberTest {field : Field} (only : field.IsOfContent) (value : IndexedMessage → UInt64)
    (single : ∀ message : IndexedMessage,
      Document.contentValues message.content field = [.word (value message)]) (test : NumberTest) :
    Expresses snapshot mailbox (test.query field) fun message => test.holds (value message) = true := by
  have column : ∀ message : IndexedMessage,
      (Document.content message.content).numbers field = [((value message).toNat : Int)] := by
    intro message
    simp [Document.numbers, Document.values, single, Value.number?]
  cases test with
  | equals wanted =>
      refine numbers only _ _ (fun message => (value message).toNat) column fun message => ?_
      simp only [NumberTest.holds, beq_iff_eq, ← UInt64.toNat_inj]
      omega
  | greaterThan bound =>
      refine numbers only _ _ (fun message => (value message).toNat) column fun message => ?_
      have word := (value message).toNat_lt
      have last : lastUid.toNat = 18446744073709551615 := rfl
      simp only [NumberTest.holds, decide_eq_true_eq, UInt64.lt_iff_toNat_lt]
      omega
  | lessThan bound =>
      refine numbers only _ _ (fun message => (value message).toNat) column fun message => ?_
      simp only [NumberTest.holds, decide_eq_true_eq, UInt64.lt_iff_toNat_lt]
      omega

theorem dateTest (test : DateTest) :
    Expresses snapshot mailbox test.query fun message => test.Meets message := by
  obtain ⟨order, resolution, date⟩ := test
  have only : (Field.internalDate resolution).IsOfContent := fun _ => rfl
  have column : ∀ message : IndexedMessage,
      (Document.content message.content).numbers (.internalDate resolution)
        = [resolution.truncate message.content.date] := fun _ => rfl
  cases order with
  | on =>
      refine numbers only _ _ _ column fun message => ?_
      simp only [DateTest.Meets, DateOrder.holds, beq_iff_eq]
      omega
  | before =>
      refine numbers only _ _ _ column fun message => ?_
      have bounds := resolution.truncate_bounds message.content.date
      simp only [DateTest.Meets, DateOrder.holds, decide_eq_true_eq]
      omega
  | after =>
      refine numbers only _ _ _ column fun message => ?_
      have bounds := resolution.truncate_bounds message.content.date
      simp only [DateTest.Meets, DateOrder.holds, decide_eq_true_eq]
      omega

end Expresses

theorem windowsFrom_ne_nil (longest : Nat) (value : List Char) (start : Nat) :
    windowsFrom longest value start ≠ [] := by
  unfold windowsFrom
  split <;> simp

/-- There is always something to look for. -/
theorem Analysis.queryTerms_ne_nil (analysis : Analysis) (value : List Char) :
    analysis.queryTerms value ≠ [] := by
  cases analysis with
  | substrings shortest longest =>
      simp only [queryTerms]
      split
      · simp
      · exact windowsFrom_ne_nil _ _ _
  | words =>
      simp only [queryTerms]
      split
      · simp
      · next found some => simpa using some

namespace Expresses

variable {snapshot : Snapshot} {mailbox : Mailbox} {analysis : Analysis}

theorem scopedQuery (name value : String) :
    Expresses snapshot mailbox (scopedQuery analysis (headerScope name.toList) value)
      fun message => HeaderHas analysis message name value :=
  startingAll (fun _ => rfl) (by simpa using analysis.queryTerms_ne_nil value.toList)

theorem headerTest {name : String} {test : HeaderTest} {query : Query}
    (translated : test.query? analysis name = .ok query) :
    Expresses snapshot mailbox query fun message => test.Meets analysis message name := by
  cases test with
  | present =>
      obtain rfl := Except.ok.inj translated
      exact (startingAll (fun _ => rfl) (List.cons_ne_nil (headerScope name.toList) []))
  | contains value =>
      obtain rfl := Except.ok.inj translated
      exact scopedQuery name value
  | address value =>
      cases found : AddressRole.ofHeader? (String.ofList (Text.trim name.toList)) with
      | some role =>
          simp only [HeaderTest.query?, HeaderTest.Meets, found] at translated ⊢
          obtain rfl := Except.ok.inj translated
          exact startingAll (fun _ => rfl) (analysis.queryTerms_ne_nil value.toList)
      | none =>
          simp only [HeaderTest.query?, HeaderTest.Meets, found] at translated ⊢
          obtain rfl := Except.ok.inj translated
          exact scopedQuery name value
  | date test => simp [HeaderTest.query?] at translated

theorem textScope (scope : TextScope) (value : String) :
    Expresses snapshot mailbox (scope.query analysis value)
      fun message => scope.Meets analysis message value := by
  have terms := analysis.queryTerms_ne_nil value.toList
  cases scope with
  | body => exact startingAll (fun _ => rfl) terms
  | full => exact either (startingAll (fun _ => rfl) terms) (startingAll (fun _ => rfl) terms)

/-- The messages with a flag, or without it, are looked up among the flags documents of the mailbox. -/
theorem flagQuery (paired : snapshot.Paired) (kept : isKept mailbox.name.toList = true) (wanted : Flag)
    (isSet : Bool) :
    Expresses snapshot mailbox (wanted.query snapshot mailbox isSet)
      fun message => isSet = true ↔ wanted.token.toList ∈ message.tokens := by
  have found : ∀ entry : Entry,
      (wanted.documentsQuery isSet mailbox).selects entry = true
        ↔ (entry.document.mailbox = mailbox ∧ entry.document.kind = .flags)
          ∧ (isSet = true ↔ wanted.token.toList ∈ entry.terms .flags) := by
    intro entry
    cases isSet with
    | true => simp [Flag.documentsQuery, Query.selects, kept]
    | false => simp [Flag.documentsQuery, Query.selects, kept]
  have looked := @messagesIn snapshot mailbox
  refine ⟨fun message held own => ?_, (looked _).on_flags⟩
  rw [Flag.query, (looked _).on_content message held own, UidRange.exists_contains_compress,
    Snapshot.mem_uids]
  constructor
  · rintro ⟨entry, listed, selected, number⟩
    obtain ⟨⟨same, flags⟩, told⟩ := (found entry).mp selected
    -- the message has one flags document, so it is the one that was found
    have one : entry = message.flagsEntry := by
      refine paired.entry_eq listed held.flags (Entry.label_eq_iff.mpr ⟨flags, ?_, ?_⟩)
      · rw [same, ← own, ← held.mailbox]
        rfl
      · rw [number, ← held.uid]
        rfl
    rw [← message.terms_flagsEntry, ← one]
    exact told
  · intro told
    rw [← message.terms_flagsEntry] at told
    exact ⟨message.flagsEntry, held.flags,
      (found _).mpr ⟨⟨held.mailbox.trans own, rfl⟩, told⟩, held.uid⟩

/-! ## Conditions joined -/

variable {queries : List Query} {criteria : List Criterion}

/-- The queries express the criteria, one by one. -/
abbrev Each (snapshot : Snapshot) (mailbox : Mailbox) (analysis : Analysis) (queries : List Query)
    (criteria : List Criterion) : Prop :=
  List.Forall₂
    (fun query criterion => Expresses snapshot mailbox query (Criterion.Meets analysis · criterion))
    queries criteria

theorem Each.exists_selects (each : Each snapshot mailbox analysis queries criteria)
    {message : IndexedMessage} (held : snapshot.Holds message) (own : message.content.mailbox = mailbox) :
    (∃ query ∈ queries, query.selects message.contentEntry = true)
      ↔ Criterion.MeetsSome analysis message criteria := by
  induction each with
  | nil => simp [Criterion.MeetsSome]
  | cons first rest ih =>
      rw [List.exists_mem_cons_iff, ih, first.on_content message held own, Criterion.MeetsSome]

theorem Each.forall_selects (each : Each snapshot mailbox analysis queries criteria)
    {message : IndexedMessage} (held : snapshot.Holds message) (own : message.content.mailbox = mailbox) :
    (∀ query ∈ queries, query.selects message.contentEntry = true)
      ↔ Criterion.MeetsEvery analysis message criteria := by
  induction each with
  | nil => simp [Criterion.MeetsEvery]
  | cons first rest ih =>
      rw [List.forall_mem_cons, ih, first.on_content message held own, Criterion.MeetsEvery]

theorem Each.on_flags (each : Each snapshot mailbox analysis queries criteria) {query : Query}
    (listed : query ∈ queries) {entry : Entry} (flags : entry.document.kind = .flags) :
    ¬ query.selects entry = true := by
  induction each with
  | nil => simp at listed
  | cons first rest ih =>
      rcases List.mem_cons.mp listed with rfl | listed
      · exact first.on_flags entry flags
      · exact ih listed

theorem everyOf (each : Each snapshot mailbox analysis queries criteria) (some : queries ≠ []) :
    Expresses snapshot mailbox (.everyOf queries) (Criterion.MeetsEvery analysis · criteria) := by
  refine ⟨fun message held own => ?_, fun entry flags selected => ?_⟩
  · rw [Query.selects_everyOf, each.forall_selects held own]
  · obtain ⟨query, listed⟩ := List.exists_mem_of_ne_nil queries some
    exact each.on_flags listed flags (Query.selects_everyOf.mp selected query listed)

theorem anyOf (each : Each snapshot mailbox analysis queries criteria) :
    Expresses snapshot mailbox (.anyOf queries) (Criterion.MeetsSome analysis · criteria) := by
  refine ⟨fun message held own => ?_, fun entry flags selected => ?_⟩
  · rw [Query.selects_anyOf, each.exists_selects held own]
  · obtain ⟨query, listed, selected⟩ := Query.selects_anyOf.mp selected
    exact each.on_flags listed flags selected

theorem selects_foldl_without (base : Query) (queries : List Query) (entry : Entry) :
    (queries.foldl Query.without base).selects entry = true
      ↔ base.selects entry = true ∧ ¬ ∃ query ∈ queries, query.selects entry = true := by
  induction queries generalizing base with
  | nil => simp
  | cons query rest ih =>
      rw [List.foldl_cons, ih, Query.selects_without, List.exists_mem_cons_iff, not_or, and_assoc]

theorem noneOf (each : Each snapshot mailbox analysis queries criteria) :
    Expresses snapshot mailbox (Criterion.noneOf queries)
      (¬ Criterion.MeetsSome analysis · criteria) := by
  refine ⟨fun message held own => ?_, fun entry flags selected => ?_⟩
  · rw [Criterion.noneOf, selects_foldl_without, each.exists_selects held own]
    exact and_iff_right ((allMessages.on_content message held own).mpr trivial)
  · rw [Criterion.noneOf, selects_foldl_without] at selected
    have content := Query.selects_allMessages.mp selected.1
    simp [flags] at content

end Expresses

namespace Criterion

variable {snapshot : Snapshot} {mailbox : Mailbox} {analysis : Analysis}

mutual

/-- The query for a criterion selects the messages that meet it. -/
theorem expresses_query? (paired : snapshot.Paired) (kept : isKept mailbox.name.toList = true) :
    ∀ {criterion : Criterion} {query : Query},
      criterion.query? snapshot mailbox analysis = .ok query →
        Expresses snapshot mailbox query (Meets analysis · criterion)
  | all, _, translated => by
      rw [query?] at translated
      obtain rfl := Except.ok.inj translated
      exact (Expresses.allMessages).equivalent fun _ => by rw [Meets]
  | uid ranges, _, translated => by
      rw [query?] at translated
      obtain rfl := Except.ok.inj translated
      exact (Expresses.messagesIn ranges).equivalent fun _ => by rw [Meets]
  | size test, _, translated => by
      rw [query?] at translated
      obtain rfl := Except.ok.inj translated
      have column : Field.size.IsOfContent := fun _ => rfl
      exact (Expresses.numberTest column (·.content.size) (fun _ => rfl) test).equivalent
        fun _ => by rw [Meets]
  | modSeq test, _, translated => by
      rw [query?] at translated
      obtain rfl := Except.ok.inj translated
      have column : Field.modSeq.IsOfContent := fun _ => rfl
      exact (Expresses.numberTest column (·.content.modSeq) (fun _ => rfl) test).equivalent
        fun _ => by rw [Meets]
  | internalDate test, _, translated => by
      rw [query?] at translated
      obtain rfl := Except.ok.inj translated
      exact (Expresses.dateTest test).equivalent fun _ => by rw [Meets]
  | header name test, _, translated => by
      rw [query?] at translated
      exact (Expresses.headerTest translated).equivalent fun _ => by rw [Meets]
  | flag wanted isSet, _, translated => by
      rw [query?] at translated
      obtain rfl := Except.ok.inj translated
      exact (Expresses.flagQuery paired kept wanted isSet).equivalent fun _ => by rw [Meets]
  | text scope value, _, translated => by
      rw [query?] at translated
      obtain rfl := Except.ok.inj translated
      exact (Expresses.textScope scope value).equivalent fun _ => by rw [Meets]
  | and criteria, _, translated => by
      rw [query?] at translated
      split at translated
      · simp at translated
      · next none =>
        -- no criteria give no queries, and every message meets all of none
        obtain rfl := Except.ok.inj translated
        have each := expresses_queries? paired kept none
        cases each
        exact Expresses.allMessages.equivalent fun _ => by rw [Meets, MeetsEvery]
      · next queries some listed =>
        obtain rfl := Except.ok.inj translated
        have each := expresses_queries? paired kept listed
        exact (Expresses.everyOf each some).equivalent fun _ => by rw [Meets]
  | or criteria, _, translated => by
      rw [query?] at translated
      split at translated
      · simp at translated
      · next queries listed =>
        obtain rfl := Except.ok.inj translated
        have each := expresses_queries? paired kept listed
        exact (Expresses.anyOf each).equivalent fun _ => by rw [Meets]
  | nor criteria, _, translated => by
      rw [query?] at translated
      split at translated
      · simp at translated
      · next queries listed =>
        obtain rfl := Except.ok.inj translated
        have each := expresses_queries? paired kept listed
        exact (Expresses.noneOf each).equivalent fun _ => by rw [Meets]

/-- The queries for criteria select the messages that meet them, one by one. -/
theorem expresses_queries? (paired : snapshot.Paired) (kept : isKept mailbox.name.toList = true) :
    ∀ {criteria : List Criterion} {queries : List Query},
      queries? snapshot mailbox analysis criteria = .ok queries →
        Expresses.Each snapshot mailbox analysis queries criteria
  | [], _, translated => by
      rw [queries?] at translated
      obtain rfl := Except.ok.inj translated
      exact .nil
  | criterion :: rest, _, translated => by
      rw [queries?] at translated
      split at translated
      · simp at translated
      · next query first =>
        split at translated
        · simp at translated
        · next queries others =>
          obtain rfl := Except.ok.inj translated
          exact .cons (expresses_query? paired kept first) (expresses_queries? paired kept others)

end

end Criterion

end Letterbox
