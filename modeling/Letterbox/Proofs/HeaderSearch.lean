import Letterbox.Proofs.FoundMessages
import Letterbox.Proofs.HeaderNames
import Letterbox.Proofs.OneAnalysis

/-!
# Searches for headers

All headers of a message are indexed in one field, each term behind the name of its header and a colon. Main
statement: a search for a header finds exactly the messages that have a header of the name, and a search for a
value in a header finds no others, unless a colon in a name is taken for that behind it.
-/

namespace Letterbox

open Text

/-- Among the events of a decoder is a header with a name. -/
def HasHeader (events : List Mime.Event) (name : String) : Prop :=
  ∃ field, .header field ∈ events ∧ SameName field.name name

/-- No header has a name that is the given one up to a colon and then goes on. -/
def KeepsApart (events : List Mime.Event) (name : String) : Prop :=
  ∀ field, .header field ∈ events →
    lower (trim (beforeColon field.name.toList)) = lower (trim name.toList) → ':' ∉ field.name.toList

theorem ContentDocument.mem_headers_ofEvents {message : Message} {events : List Mime.Event}
    {field : Mime.HeaderField} : field ∈ (ofEvents message events).headers ↔ .header field ∈ events := by
  simp only [ofEvents, List.mem_filterMap]
  constructor
  · rintro ⟨event, listed, told⟩
    cases event with
    | header other =>
        obtain rfl := Option.some.inj told
        exact listed
    | body part => simp [Mime.Event.header?] at told
  · exact fun listed => ⟨_, listed, rfl⟩

namespace Index

variable {index : Index} {message : Message} {events : List Mime.Event} {name : String}

/-- Only headers with a name have terms that start with its scope. -/
theorem hasHeader_of_term {analysis : Analysis} {term : Term} (plain : ':' ∉ name.toList)
    (apart : KeepsApart events name)
    (indexed : term ∈ (Document.content (.ofEvents message events)).terms analysis .header)
    (starts : headerScope name.toList <+: term) : HasHeader events name := by
  obtain ⟨⟨line, held, produced⟩, -⟩ := Document.mem_terms.mp indexed
  obtain ⟨field, listed, same⟩ := List.mem_map.mp held
  obtain rfl := Value.text.inj same
  have told := ContentDocument.mem_headers_ofEvents.mp listed
  have cut := lower_trim_eq_of_scope_prefix plain (colon_not_mem_beforeColon field.name.toList) starts
    (Analysis.scope_prefix_of_mem_headerTerms produced)
  refine ⟨field, told, ?_⟩
  rwa [beforeColon_of_plain (apart field told cut)] at cut

/-- A header with a name has the scope of the name as its term. -/
theorem scope_mem_terms (analysis : Analysis) (plain : ':' ∉ name.toList)
    (short : isKept (headerScope name.toList) = true) (has : HasHeader events name) :
    headerScope name.toList ∈ (Document.content (.ofEvents message events)).terms analysis .header := by
  obtain ⟨field, told, same⟩ := has
  have listed : field ∈ (ContentDocument.ofEvents message events).headers :=
    ContentDocument.mem_headers_ofEvents.mpr told
  refine Document.mem_terms.mpr ⟨⟨Document.namedLine field, List.mem_map_of_mem listed, ?_⟩, short⟩
  exact (analysis.mem_headerTerms (same.plain plain)).mpr (Or.inl same.headerScope_eq.symm)

/-- What searches for a header tell of a message of which a decoder told some events. -/
structure ScopesHeader (index : Index) (content : ContentDocument) (events : List Mime.Event)
    (name : String) : Prop where
  present : index.Selects (.header name .present) content ↔ HasHeader events name
  contains : ∀ value, index.Selects (.header name (.contains value)) content → HasHeader events name
  finds : HasHeader events name → isKept content.mailbox.name.toList = true →
    index.Finds content.mailbox (.header name .present) content.uid
  omits : ¬ HasHeader events name →
    index.Omits content.mailbox (.header name .present) content.uid
      ∧ ∀ value, index.Omits content.mailbox (.header name (.contains value)) content.uid

/--
A search for a header selects a message exactly if the message has a header of the name, and a search for a
value in a header selects no message without one. The name has no colon, none of the message's headers has it
up to a colon only, and the scope is short enough to be indexed.
-/
theorem scopesHeader (paired : index.committed.Paired)
    (live : .content (.ofEvents message events) ∈ index.committed.documents)
    (valid : (Criterion.header name .present).validate = .ok ()) (plain : ':' ∉ name.toList)
    (apart : KeepsApart events name) (short : isKept (headerScope name.toList) = true) :
    index.ScopesHeader (.ofEvents message events) events name := by
  have present : index.Selects (.header name .present) (.ofEvents message events)
      ↔ HasHeader events name := by
    constructor
    · rintro ⟨query, translated, entry, listed, document, selected⟩
      obtain rfl := Except.ok.inj translated
      obtain ⟨term, indexed, starts⟩ := (Query.selects_starting _ _ _).mp selected
      rw [entry.terms_eq, document] at indexed
      exact hasHeader_of_term plain apart indexed starts
    · intro has
      obtain ⟨entry, listed, document⟩ := List.mem_map.mp live
      refine ⟨_, rfl, entry, listed, document, (Query.selects_starting _ _ _).mpr ?_⟩
      refine ⟨headerScope name.toList, ?_, List.prefix_rfl⟩
      rw [entry.terms_eq, document]
      exact scope_mem_terms _ plain short has
  have contains : ∀ value, index.Selects (.header name (.contains value)) (.ofEvents message events) →
      HasHeader events name := by
    rintro value ⟨query, translated, entry, listed, document, selected⟩
    obtain rfl := Except.ok.inj translated
    -- there is always some term to look for
    obtain ⟨wanted, asked⟩ := List.exists_mem_of_ne_nil _ (index.analysis.queryTerms_ne_nil value.toList)
    obtain ⟨term, indexed, starts⟩ := Query.selects_startingAll.mp selected _ (List.mem_map_of_mem asked)
    rw [entry.terms_eq, document] at indexed
    exact hasHeader_of_term plain apart indexed ((List.prefix_append _ wanted).trans starts)
  refine ⟨present, contains, fun has kept => (present.mpr has).finds valid kept, fun lacks => ⟨?_, ?_⟩⟩
  · exact omits_of_not_selects paired live valid (mt present.mp lacks)
  · exact fun value => omits_of_not_selects paired live valid (mt (contains value) lacks)

/-- A letter with a subject and a note. -/
def notedLetter : List Mime.Event :=
  [.header ⟨"Subject", "Hello", none⟩, .header ⟨"X-Note", "draft:secret", none⟩]

/-- A letter with a header that has a colon in its name. -/
def markedLetter : List Mime.Event :=
  [.header ⟨"X-Note:draft", "secret", none⟩]

theorem content_mem_small {content : ContentDocument}
    (decoded : ContentDocument.ofEvents emptyLetter events = content) :
    .content content ∈ (ofLetter .small events).committed.documents :=
  (content_mem_ofLetter .small events rfl).mpr decoded.symm

theorem paired_small (events : List Mime.Event) : (ofLetter .small events).committed.Paired := by
  rw [committed_ofLetter .small events rfl]
  exact Snapshot.paired_message _ rfl rfl

theorem scopesHeader_notedLetter :
    (ofLetter .small notedLetter).ScopesHeader (.ofEvents emptyLetter notedLetter) notedLetter " x-NOTE " := by
  have apart : KeepsApart notedLetter " x-NOTE " := by
    intro field told _
    simp only [notedLetter, List.mem_cons, Mime.Event.header.injEq, List.not_mem_nil, or_false] at told
    rcases told with rfl | rfl <;> decide
  exact scopesHeader (paired_small notedLetter) (content_mem_small rfl) (by decide) (by decide) apart
    (by decide +kernel)

/-- A letter without a header of a name is found by a search for it. -/
structure Mistakes (events : List Mime.Event) (name : String) : Prop where
  paired : (ofLetter .small events).committed.Paired
  live : .content (.ofEvents emptyLetter events) ∈ (ofLetter .small events).committed.documents
  valid : (Criterion.header name .present).validate = .ok ()
  short : isKept (headerScope name.toList) = true
  lacks : ¬ HasHeader events name
  answer : (ofLetter .small events).search ⟨"inbox"⟩ (.header name .present) = .ok [1]
  selected : (ofLetter .small events).Selects (.header name .present) (.ofEvents emptyLetter events)

theorem mistakes_of_answer {name : String} (valid : (Criterion.header name .present).validate = .ok ())
    (short : isKept (headerScope name.toList) = true) (lacks : ¬ HasHeader events name)
    (answer : (ofLetter .small events).search ⟨"inbox"⟩ (.header name .present) = .ok [1]) :
    Mistakes events name where
  paired := paired_small events
  live := content_mem_small rfl
  valid := valid
  short := short
  lacks := lacks
  answer := answer
  selected := selects_of_listed (paired_small events) (content_mem_small rfl) valid answer List.mem_cons_self

/-- The start of a value is taken for the end of a name that has a colon, and the other way round. -/
theorem finds_value_as_name : Mistakes notedLetter "x-note:draft" ∧ Mistakes markedLetter "x-note" := by
  constructor
  · refine mistakes_of_answer (by decide) (by decide +kernel) ?_ (by decide +kernel)
    rintro ⟨field, told, same⟩
    simp only [notedLetter, List.mem_cons, Mime.Event.header.injEq, List.not_mem_nil, or_false] at told
    rcases told with rfl | rfl <;> exact absurd same (by decide +kernel)
  · refine mistakes_of_answer (by decide) (by decide +kernel) ?_ (by decide +kernel)
    rintro ⟨field, told, same⟩
    simp only [markedLetter, List.mem_cons, Mime.Event.header.injEq, List.not_mem_nil, or_false] at told
    exact absurd (told ▸ same) (by decide +kernel)

end Index

end Letterbox
