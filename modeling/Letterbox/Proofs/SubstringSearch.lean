import Letterbox.Proofs.FoundMessages
import Letterbox.Proofs.HeaderNames
import Letterbox.Proofs.OneAnalysis
import Letterbox.Proofs.TokenPieces

/-!
# Searches for pieces of texts

What searches find when texts are analysed by their substrings. Main statements: a search for a value finds
every message in which the value occurs inside a sentence; a message that it finds has each window of the
value in its texts; and a message is found by a piece of its own text whose capital sigmas end the same words
by themselves as in the text.
-/

namespace Letterbox

open Text

/-- Texts are analysed by their substrings, with lengths between bounds that are in order. -/
structure Config.BySubstrings (config : Config) : Prop where
  chosen : config.substrings = true
  positive : 1 ≤ config.shortestToken
  ordered : config.shortestToken ≤ config.longestToken

theorem Config.BySubstrings.analysis_eq {config : Config} (mode : config.BySubstrings) :
    config.analysis = .substrings config.shortestToken config.longestToken := by
  rw [Config.analysis, if_pos mode.chosen]
  simp only [Nat.max_eq_left mode.positive, Nat.max_eq_left mode.ordered]

theorem Config.small_bySubstrings : Config.small.BySubstrings :=
  ⟨rfl, by decide, by decide⟩

namespace Index

/-- All query terms of a value behind a scope are short enough to be indexed. -/
def KeepsTerms (index : Index) (scope : Term) (value : String) : Prop :=
  ∀ term ∈ index.analysis.queryTerms value.toList, isKept (scope ++ term) = true

/-- A value is as long as the shortest token in lower case. -/
def IsLongEnough (index : Index) (value : String) : Prop :=
  index.config.shortestToken ≤ (lower value.toList).length

instance (index : Index) (scope : Term) (value : String) : Decidable (index.KeepsTerms scope value) :=
  inferInstanceAs (Decidable (∀ term ∈ index.analysis.queryTerms value.toList, isKept (scope ++ term) = true))

instance (index : Index) (value : String) : Decidable (index.IsLongEnough value) :=
  inferInstanceAs (Decidable (index.config.shortestToken ≤ (lower value.toList).length))

/-! ## Messages that are found -/

/-- What is found of a message by the pieces of its texts that are long enough and whose terms are
indexed. -/
structure FindsPieces (index : Index) (content : ContentDocument) : Prop where
  text : ∀ {value : String} (scope : TextScope), index.IsLongEnough value → index.KeepsTerms [] value →
    ∀ body ∈ content.bodies, OccursIn value.toList body.toList →
      index.Finds content.mailbox (.text scope value) content.uid
  header : ∀ {name value : String}, trim name.toList ≠ [] → index.IsLongEnough value →
    index.KeepsTerms (headerScope name.toList) value →
    ∀ field ∈ content.headers, ':' ∉ field.name.toList → SameName field.name name →
      OccursIn value.toList field.value.toList →
        index.Finds content.mailbox (.header name (.contains value)) content.uid
  address : ∀ {name value : String}, index.IsLongEnough value → index.KeepsTerms [] value →
    ∀ field ∈ content.headers, ∀ role, AddressRole.ofHeader? field.name = some role →
      SameName field.name name → ∀ address ∈ field.addresses.getD [],
        OccursIn value.toList address.toList →
          index.Finds content.mailbox (.header name (.address value)) content.uid

namespace Lives

variable {config : Config} {index : Index} (lives : Lives config index) (mode : config.BySubstrings)

include lives

/-- The entry of a visible content has the analysis of the configuration. -/
theorem content_mem {content : ContentDocument} (live : .content content ∈ index.committed.documents) :
    Entry.ofDocument index.analysis (.content content) ∈ index.committed := by
  obtain ⟨entry, listed, document⟩ := List.mem_map.mp live
  have kind : entry.document.kind = .message := by rw [document]; rfl
  obtain ⟨other, shape⟩ := entry.exists_content kind
  rw [lives.uniform.committed entry listed] at shape
  rw [shape] at document listed
  obtain rfl := Document.content.inj document
  exact listed

/-- A content is found if the query for a criterion selects it. -/
theorem finds_content {content : ContentDocument} (live : .content content ∈ index.committed.documents)
    (indexed : isKept content.mailbox.name.toList = true) {criterion : Criterion} {query : Query}
    (valid : criterion.validate = .ok ())
    (translated : criterion.query? index.committed content.mailbox index.analysis = .ok query)
    (selected : query.selects (.ofDocument index.analysis (.content content)) = true) :
    index.Finds content.mailbox criterion content.uid :=
  finds_of_selects valid translated (lives.content_mem live) indexed selected

include mode

theorem analysis_substrings :
    index.analysis = .substrings index.config.shortestToken index.config.longestToken := by
  rw [lives.analysis_eq, mode.analysis_eq, lives.config_eq]

/-- Each query term of a value that occurs in a text is a token of the text. -/
theorem exists_token {value text : String} {term : Term} (enough : index.IsLongEnough value)
    (occurs : OccursIn value.toList text.toList) (wanted : term ∈ index.analysis.queryTerms value.toList) :
    ∃ token ∈ index.analysis.tokens text.toList, token.text = term := by
  have same := lives.config_eq
  rw [lives.analysis_substrings mode] at wanted ⊢
  exact occurs.exists_token (same ▸ mode.positive) (same ▸ mode.ordered) enough wanted

/-- The terms of a value that occurs in a text of a field are terms of the field. -/
theorem mem_terms {content : ContentDocument} {field : Field} {value text whole : String} {scope : Term}
    (enough : index.IsLongEnough value) (keeps : index.KeepsTerms scope value)
    (occurs : OccursIn value.toList text.toList)
    (held : .text whole ∈ (Document.content content).values field)
    (behind : ∀ token ∈ index.analysis.tokens text.toList,
      scope ++ token.text ∈ index.analysis.termsOf field whole.toList) :
    ∀ term ∈ index.analysis.queryTerms value.toList,
      scope ++ term ∈ (Entry.ofDocument index.analysis (.content content)).terms field := by
  intro term wanted
  obtain ⟨token, listed, rfl⟩ := lives.exists_token mode enough occurs wanted
  rw [Entry.terms_eq]
  exact Document.mem_terms.mpr ⟨⟨whole, held, behind token listed⟩, keeps _ wanted⟩

section Content

variable {content : ContentDocument} (live : .content content ∈ index.committed.documents)
  (indexed : isKept content.mailbox.name.toList = true)

include live indexed

theorem finds_text {value body : String} (scope : TextScope) (enough : index.IsLongEnough value)
    (keeps : index.KeepsTerms [] value) (listed : body ∈ content.bodies)
    (occurs : OccursIn value.toList body.toList) :
    index.Finds content.mailbox (.text scope value) content.uid := by
  have held : .text body ∈ (Document.content content).values .body := List.mem_map_of_mem listed
  have terms := lives.mem_terms mode enough keeps occurs held fun _ found => List.mem_map_of_mem found
  have inBody := Query.selects_startingAll_of_terms terms
  have valid : (Criterion.text scope value).validate = .ok () := rfl
  refine lives.finds_content live indexed valid rfl ?_
  cases scope with
  | body => exact inBody
  | full => exact Query.selects_either.mpr (Or.inl inBody)

theorem finds_header {name value : String} {field : Mime.HeaderField} (proper : trim name.toList ≠ [])
    (enough : index.IsLongEnough value) (keeps : index.KeepsTerms (headerScope name.toList) value)
    (listed : field ∈ content.headers) (plain : ':' ∉ field.name.toList) (same : SameName field.name name)
    (occurs : OccursIn value.toList field.value.toList) :
    index.Finds content.mailbox (.header name (.contains value)) content.uid := by
  have held : .text (Document.namedLine field) ∈ (Document.content content).values .header :=
    List.mem_map_of_mem listed
  have behind : ∀ token ∈ index.analysis.tokens field.value.toList,
      headerScope name.toList ++ token.text
        ∈ index.analysis.termsOf .header (Document.namedLine field).toList := by
    intro token found
    rw [← same.headerScope_eq]
    exact (index.analysis.mem_headerTerms plain).mpr (Or.inr ⟨token, found, rfl⟩)
  have terms := lives.mem_terms mode enough keeps occurs held behind
  have valid := Criterion.validate_header proper (HeaderTest.contains value) (by simp)
  refine lives.finds_content live indexed valid rfl ?_
  exact Query.selects_startingAll_of_terms (List.forall_mem_map.mpr terms)

theorem finds_address {name value address : String} {field : Mime.HeaderField} {role : AddressRole}
    (enough : index.IsLongEnough value) (keeps : index.KeepsTerms [] value)
    (listed : field ∈ content.headers) (found : AddressRole.ofHeader? field.name = some role)
    (same : SameName field.name name) (given : address ∈ field.addresses.getD [])
    (occurs : OccursIn value.toList address.toList) :
    index.Finds content.mailbox (.header name (.address value)) content.uid := by
  have asked := AddressRole.ofHeader?_of_sameName found same
  have held : .text address ∈ (Document.content content).values (.addresses role) := by
    refine List.mem_map_of_mem (List.mem_flatMap.mpr ⟨field, listed, ?_⟩)
    rw [Document.addressesOf, if_pos found]
    exact given
  have terms := lives.mem_terms mode enough keeps occurs held fun _ found => List.mem_map_of_mem found
  have proper := AddressRole.trim_ne_nil_of_role asked
  have valid := Criterion.validate_header proper (HeaderTest.address value) (by simp)
  have translated : (Criterion.header name (.address value)).query? index.committed content.mailbox
      index.analysis = .ok (.startingAll (.addresses role) (index.analysis.queryTerms value.toList)) := by
    rw [Criterion.query?, HeaderTest.query?, asked]
  exact lives.finds_content live indexed valid translated
    (Query.selects_startingAll_of_terms terms)

end Content

end Lives

/-! ## Messages that a text condition finds -/

/-- What starts a body term of a document is a piece of a body in lower case. -/
theorem isInfix_of_starts_term {analysis : Analysis} {content : ContentDocument} {start term : Term}
    (indexed : term ∈ (Document.content content).terms analysis .body) (starts : start <+: term) :
    ∃ body ∈ content.bodies, start <:+: lower body.toList := by
  obtain ⟨⟨body, held, produced⟩, -⟩ := Document.mem_terms.mp indexed
  obtain ⟨text, listed, same⟩ := List.mem_map.mp held
  obtain rfl := Value.text.inj same
  obtain ⟨token, found, rfl⟩ := List.mem_map.mp produced
  exact ⟨text, listed, analysis.isInfix_of_starts_token found starts⟩

/-- Each query term of a value lies in a body of every message that is found by it. -/
theorem terms_of_found {index : Index} {mailbox : Mailbox} {value : String} {uids : List Uid} {uid : Uid}
    (answer : index.search mailbox (.text .body value) = .ok uids) (found : uid ∈ uids) :
    ∃ content, .content content ∈ index.committed.documents ∧ content.mailbox = mailbox ∧ content.uid = uid
      ∧ ∀ start ∈ index.analysis.queryTerms value.toList,
        ∃ body ∈ content.bodies, start <:+: lower body.toList := by
  have valid : (Criterion.text .body value).validate = .ok () := rfl
  obtain ⟨query, translated, list⟩ := index.search_eq mailbox valid
  obtain rfl := Except.ok.inj (answer.symm.trans list)
  rw [Criterion.query?] at translated
  obtain rfl := Except.ok.inj translated
  obtain ⟨entry, listed, selected, rfl⟩ := Snapshot.mem_uids.mp (List.mem_of_mem_take found)
  rw [Query.selects_both, Query.selects_inMailbox, TextScope.query, Query.selects_startingAll] at selected
  obtain ⟨⟨own, -⟩, starts⟩ := selected
  have kind : entry.document.kind = .message := by
    cases kind : entry.document.kind with
    | message => rfl
    | flags =>
        -- flags have no body, and there is something to look for
        have none : entry.terms .body = [] := by
          rw [Entry.terms_eq, Document.terms, entry.values_of_flags (fun _ => rfl) kind]
          rfl
        obtain ⟨start, wanted⟩ := List.exists_mem_of_ne_nil _ (index.analysis.queryTerms_ne_nil value.toList)
        obtain ⟨term, held, -⟩ := starts start wanted
        rw [none] at held
        simp at held
  obtain ⟨content, shape⟩ := entry.exists_content kind
  generalize entry.analysis = analysis at shape
  subst shape
  refine ⟨content, List.mem_map_of_mem listed, own, rfl, fun start wanted => ?_⟩
  obtain ⟨term, held, begins⟩ := starts start wanted
  rw [Entry.terms_eq] at held
  exact isInfix_of_starts_term held begins

/-! ## Main statements -/

variable {config : Config} {index : Index} {content : ContentDocument}

/-- No message is missed that has a value inside a sentence. -/
theorem Lives.findsPieces (lives : Lives config index) (mode : config.BySubstrings)
    (live : .content content ∈ index.committed.documents)
    (indexed : isKept content.mailbox.name.toList = true) : index.FindsPieces content where
  text scope enough keeps _ listed occurs :=
    lives.finds_text mode live indexed scope enough keeps listed occurs
  header proper enough keeps _ listed plain same occurs :=
    lives.finds_header mode live indexed proper enough keeps listed plain same occurs
  address enough keeps _ listed _ found same _ given occurs :=
    lives.finds_address mode live indexed enough keeps listed found same given occurs

/-- A letter with a subject, a sender and a body. -/
def greeting : List Mime.Event :=
  [.header ⟨"Subject", "Hello world", none⟩,
    .header ⟨"From", "post@example.org", some ["post@example.org"]⟩, plainBody "Hello, dear world!"]

theorem findsPieces_greeting :
    (ofLetter .small greeting).Finds ⟨"inbox"⟩ (.text .full "EAR WOR") 1
      ∧ (ofLetter .small greeting).Finds ⟨"inbox"⟩ (.header " sUBJECT" (.contains "LO WO")) 1
      ∧ (ofLetter .small greeting).Finds ⟨"inbox"⟩ (.header "FROM " (.address "@EXAMPLE")) 1 := by
  have finds := Lives.findsPieces (lives_ofLetter .small greeting) Config.small_bySubstrings
    ((content_mem_ofLetter .small greeting rfl).mpr rfl) (by decide)
  refine ⟨?_, ?_, ?_⟩
  · exact finds.text .full (by decide +kernel) (by decide +kernel) "Hello, dear world!" (by decide +kernel)
      (by decide +kernel)
  · exact finds.header (by decide) (by decide +kernel) (by decide +kernel) ⟨"Subject", "Hello world", none⟩
      (by decide +kernel) (by decide) (by decide +kernel) (by decide +kernel)
  · exact finds.address (by decide +kernel) (by decide +kernel)
      ⟨"From", "post@example.org", some ["post@example.org"]⟩ (by decide +kernel) .sender (by decide)
      (by decide +kernel) "post@example.org" (by decide) (by decide +kernel)

/-- An index of one letter with a header that has no name. -/
def namelessIndex : Index :=
  ofLetter .small [.header ⟨"", "hello", none⟩]

/-- A header without a name has its value indexed, but no valid criterion asks for it. -/
theorem misses_nameless_header :
    Config.small.BySubstrings ∧ Lives .small namelessIndex
      ∧ ∃ content, .content content ∈ namelessIndex.committed.documents
        ∧ isKept content.mailbox.name.toList = true
        ∧ ∃ field ∈ content.headers, ':' ∉ field.name.toList ∧ SameName field.name ""
          ∧ OccursIn "hello".toList field.value.toList ∧ namelessIndex.IsLongEnough "hello"
          ∧ namelessIndex.KeepsTerms (headerScope "".toList) "hello"
          ∧ ¬ namelessIndex.Finds content.mailbox (.header "" (.contains "hello")) content.uid := by
  refine ⟨Config.small_bySubstrings, lives_ofLetter _ _, _, (content_mem_ofLetter _ _ rfl).mpr rfl,
    by decide, ⟨"", "hello", none⟩, List.mem_cons_self, by decide, rfl, by decide +kernel, by decide +kernel,
    by decide +kernel, ?_⟩
  rintro ⟨uids, answer, -⟩
  have refused : namelessIndex.search ⟨"inbox"⟩ (.header "" (.contains "hello"))
      = .error .headerNameMissing := rfl
  exact absurd (refused.symm.trans answer) (by simp)

/--
A message that is found by a body text has each window of the text in its bodies. If the text is not longer
than the longest token, one of the bodies has it as a whole.
-/
theorem bodies_of_found (mode : index.config.BySubstrings) {mailbox : Mailbox} {value : String}
    {uids : List Uid} {uid : Uid} (answer : index.search mailbox (.text .body value) = .ok uids)
    (found : uid ∈ uids) :
    ∃ content, .content content ∈ index.committed.documents ∧ content.mailbox = mailbox ∧ content.uid = uid
      ∧ (∀ window, IsWindow index.config.longestToken (lower value.toList) window →
        ∃ body ∈ content.bodies, window <:+: lower body.toList)
      ∧ ((lower value.toList).length ≤ index.config.longestToken →
        ∃ body ∈ content.bodies, lower value.toList <:+: lower body.toList) := by
  obtain ⟨content, live, own, number, terms⟩ := terms_of_found answer found
  have windows : ∀ window, IsWindow index.config.longestToken (lower value.toList) window →
      ∃ body ∈ content.bodies, window <:+: lower body.toList := by
    intro window isWindow
    refine terms window ?_
    rw [analysis, mode.analysis_eq]
    exact Analysis.mem_queryTerms.mpr isWindow
  refine ⟨content, live, own, number, windows, fun short => windows _ (Or.inr ?_)⟩
  rw [Nat.sub_eq_zero_of_le short, List.drop_zero]

theorem bodies_of_found_greeting :
    (ofLetter .small greeting).search ⟨"inbox"⟩ (.text .body "EAR WOR") = .ok [1]
      ∧ ∃ content, .content content ∈ (ofLetter .small greeting).committed.documents
        ∧ content.mailbox = ⟨"inbox"⟩ ∧ content.uid = 1
        ∧ (∀ window, IsWindow 40 (lower "EAR WOR".toList) window →
          ∃ body ∈ content.bodies, window <:+: lower body.toList)
        ∧ ((lower "EAR WOR".toList).length ≤ 40 →
          ∃ body ∈ content.bodies, lower "EAR WOR".toList <:+: lower body.toList) := by
  have answer : (ofLetter .small greeting).search ⟨"inbox"⟩ (.text .body "EAR WOR") = .ok [1] := by
    decide +kernel
  have config := config_ofLetter .small greeting
  have mode : (ofLetter .small greeting).config.BySubstrings := by
    rw [config]
    exact Config.small_bySubstrings
  have bodies := bodies_of_found mode answer List.mem_cons_self
  rw [config] at bodies
  exact ⟨answer, bodies⟩

/-- Tokens of at most two characters. -/
def shortTokens : Config :=
  { Config.small with shortestToken := 1, longestToken := 2 }

/-- An index of one letter in which the windows of a text stand apart. -/
def splitIndex : Index :=
  ofLetter shortTokens [plainBody "ab bc"]

/-- The windows of a longer text are looked up one by one, so a body may have them apart from each other. -/
theorem finds_windows_apart :
    shortTokens.BySubstrings ∧ Lives shortTokens splitIndex
      ∧ splitIndex.search ⟨"inbox"⟩ (.text .body "abc") = .ok [1]
      ∧ ¬ ∃ content, .content content ∈ splitIndex.committed.documents
        ∧ ∃ body ∈ content.bodies, lower "abc".toList <:+: lower body.toList := by
  refine ⟨⟨rfl, by decide, by decide⟩, lives_ofLetter _ _, by decide +kernel, ?_⟩
  rintro ⟨content, live, bodies⟩
  obtain rfl := (content_mem_ofLetter _ _ rfl).mp live
  exact absurd bodies (by decide +kernel)

/--
A message is found by each piece of a sentence of a body whose capital sigmas end the same words by
themselves as in the sentence.
-/
theorem Lives.finds_own_piece (lives : Lives config index) (mode : config.BySubstrings)
    (live : .content content ∈ index.committed.documents)
    (indexed : isKept content.mailbox.name.toList = true) {body value : String} (listed : body ∈ content.bodies)
    {sentence : Piece} (cut : sentence ∈ sentences body.toList) {before after : List Char}
    (split : sentence.text = before ++ value.toList ++ after)
    (sigmas : KeepsSigmas before value.toList after) (enough : index.IsLongEnough value)
    (keeps : index.KeepsTerms [] value) :
    index.Finds content.mailbox (.text .body value) content.uid :=
  lives.finds_text mode live indexed .body enough keeps listed (occursIn_of_piece cut split sigmas)

theorem finds_own_piece_final_sigma :
    (ofLetter .small [plainBody "η ΟΔΟΣ μου"]).Finds ⟨"inbox"⟩ (.text .body "ΔΟΣ μ") 1 := by
  have live := (content_mem_ofLetter .small [plainBody "η ΟΔΟΣ μου"] rfl).mpr rfl
  have cut : (⟨0, "η ΟΔΟΣ μου".toList⟩ : Piece) ∈ sentences "η ΟΔΟΣ μου".toList := by
    decide +kernel
  have split : "η ΟΔΟΣ μου".toList = "η Ο".toList ++ "ΔΟΣ μ".toList ++ "ου".toList := by
    decide
  exact Lives.finds_own_piece (lives_ofLetter _ _) Config.small_bySubstrings live (by decide)
    (by decide +kernel) cut split (by decide +kernel) (by decide +kernel) (by decide +kernel)

/-- An index of one letter with a sigma inside a word. -/
def sigmaIndex : Index :=
  ofLetter .small [plainBody "ΟΔΟΣΩ"]

/-- A piece that is cut behind a sigma has it in its final form, which the word does not have. -/
theorem misses_piece_ending_in_sigma :
    Config.small.BySubstrings ∧ Lives .small sigmaIndex
      ∧ ∃ content, .content content ∈ sigmaIndex.committed.documents
        ∧ isKept content.mailbox.name.toList = true
        ∧ ∃ body ∈ content.bodies, ∃ sentence ∈ sentences body.toList, "ΔΟΣ".toList <:+: sentence.text
          ∧ sigmaIndex.config.shortestToken ≤ "ΔΟΣ".length ∧ sigmaIndex.IsLongEnough "ΔΟΣ"
          ∧ sigmaIndex.KeepsTerms [] "ΔΟΣ"
          ∧ ¬ sigmaIndex.Finds content.mailbox (.text .body "ΔΟΣ") content.uid := by
  refine ⟨Config.small_bySubstrings, lives_ofLetter _ _, _, (content_mem_ofLetter _ _ rfl).mpr rfl,
    by decide, "ΟΔΟΣΩ", by decide +kernel, ⟨0, "ΟΔΟΣΩ".toList⟩, by decide +kernel, by decide,
    by decide +kernel, by decide +kernel, by decide +kernel, ?_⟩
  rintro ⟨uids, answer, found⟩
  have nothing : sigmaIndex.search ⟨"inbox"⟩ (.text .body "ΔΟΣ") = .ok [] := by
    decide +kernel
  obtain rfl : [] = uids := Except.ok.inj (nothing.symm.trans answer)
  rcases found with listed | ⟨full, -⟩
  · simp at listed
  · exact absurd full (by decide +kernel)

end Index

end Letterbox
