import Letterbox.Proofs.FieldSearch
import Letterbox.Proofs.HeaderSearch
import Letterbox.Proofs.JoinedTexts

/-!
# Searches for addresses

The addresses of a header with a role are indexed one by one, and again in the line of the header. Main
statements: a search for an address finds what was indexed under a name of the role without blanks around it, and
among the messages whose decoder joins the addresses of a header, as the usual one does, a search for the same value
in the header finds them too.
-/

namespace Letterbox

open Text

/-! ## Roles -/

namespace AddressRole

theorem colon_not_mem_of_role {header : String} {role : AddressRole} (found : ofHeader? header = some role) :
    ':' ∉ header.toList := by
  intro listed
  have spelled : ':'.toLower ∈ role.name.toList := by
    rw [← ofHeader?_eq_some_iff.mp found]
    exact List.mem_map_of_mem listed
  exact absurd (mem_letters spelled) (by decide)

/-- However a name of a role is spelled, its scope is that of the role. -/
theorem headerScope_of_role {name : String} {role : AddressRole}
    (asked : ofHeader? (String.ofList (trim name.toList)) = some role) :
    headerScope name.toList = role.name.toList ++ [':'] := by
  have known : ∀ letter ∈ role.name.toList, letter ∈ letters := fun letter listed => mem_letters listed
  have spelled := ofHeader?_eq_some_iff.mp asked
  rw [String.toList_ofList] at spelled
  exact congrArg (· ++ [':']) ((lowerAfter_eq_iff known [] _).mpr spelled)

/-- A token of the value of a header with a role is indexed behind the scope of the role. -/
theorem mem_headerTerms {analysis : Analysis} {field : Mime.HeaderField} {role : AddressRole}
    (found : ofHeader? field.name = some role) {token : Token} (cut : token ∈ analysis.tokens field.value.toList) :
    role.name.toList ++ [':'] ++ token.text ∈ analysis.termsOf .header (Document.namedLine field).toList := by
  have bare : ofHeader? (String.ofList (trim field.name.toList)) = some role := by
    rwa [trim_of_role found, String.ofList_toList]
  rw [← headerScope_of_role bare]
  exact (analysis.mem_headerTerms (colon_not_mem_of_role found)).mpr (Or.inr ⟨token, cut, rfl⟩)

end AddressRole

/-- The addresses of a role are those of the headers that have it as they are named. -/
theorem Document.mem_values_addresses {content : ContentDocument} {role : AddressRole} {address : String} :
    .text address ∈ (Document.content content).values (.addresses role)
      ↔ ∃ field ∈ content.headers, AddressRole.ofHeader? field.name = some role
        ∧ address ∈ field.addresses.getD [] := by
  have told : ∀ field : Mime.HeaderField, address ∈ addressesOf role field
      ↔ AddressRole.ofHeader? field.name = some role ∧ address ∈ field.addresses.getD [] := by
    intro field
    unfold addressesOf
    split
    · next found => simp [found]
    · next other => simp [other]
  simp [values, contentValues, told]

/-! ## Names with blanks -/

namespace Index

variable {config : Config} {index : Index} {content : ContentDocument} {name value : String} {role : AddressRole}

/--
A search for an address selects a message exactly if the value occurs in an address of a header that has the role
as it is named. The value is one window, not too short and kept.
-/
theorem Lives.selects_address_iff (lives : Lives config index) (mode : config.BySubstrings)
    (live : .content content ∈ index.committed.documents)
    (asked : AddressRole.ofHeader? (String.ofList (trim name.toList)) = some role)
    (least : config.shortestToken ≤ (lower value.toList).length)
    (most : (lower value.toList).length ≤ config.longestToken) (kept : isKept (lower value.toList) = true) :
    index.Selects (.header name (.address value)) content
      ↔ ∃ field ∈ content.headers, AddressRole.ofHeader? field.name = some role
        ∧ ∃ address ∈ field.addresses.getD [], OccursIn value.toList address.toList := by
  have analysis : index.analysis = .substrings config.shortestToken config.longestToken := by
    rw [lives.analysis_eq, mode.analysis_eq]
  have single : index.analysis.queryTerms value.toList = [lower value.toList] := by
    rw [analysis, Analysis.queryTerms]
    exact if_pos most
  rw [lives.selects_address live asked, single, List.forall_mem_singleton]
  constructor
  · rintro ⟨term, indexed, starts⟩
    obtain ⟨⟨address, held, produced⟩, -⟩ := Document.mem_terms.mp indexed
    obtain ⟨field, listed, found, given⟩ := Document.mem_values_addresses.mp held
    obtain ⟨token, cut, rfl⟩ := List.mem_map.mp produced
    rw [analysis] at cut
    obtain ⟨sentence, present, isToken⟩ := sound_sentenceTokens cut
    exact ⟨field, listed, found, address, given, sentence, present, starts.isInfix.trans isToken.isInfix⟩
  · rintro ⟨field, listed, found, address, given, sentence, present, inside⟩
    obtain ⟨token, cut, form⟩ := Analysis.exists_token_of_isInfix mode.positive present inside least most
    rw [← analysis] at cut
    have held := Document.mem_values_addresses.mpr ⟨field, listed, found, given⟩
    have produced : lower value.toList ∈ index.analysis.termsOf (.addresses role) address.toList :=
      List.mem_map.mpr ⟨token, cut, form⟩
    exact ⟨_, Document.mem_terms.mpr ⟨⟨address, held, produced⟩, kept⟩, List.prefix_rfl⟩

/--
Of a header that has a role as it is named, without blanks around the name, each address is found by what occurs in
it, under every spelling of the name. The value is one window, not too short and kept.
-/
theorem Lives.hits_told_address (lives : Lives config index) (mode : config.BySubstrings) {message : Message}
    {events : List Mime.Event} (live : .content (.ofEvents message events) ∈ index.committed.documents)
    {field : Mime.HeaderField} (told : .header field ∈ events)
    (hasRole : AddressRole.ofHeader? (String.ofList (trim field.name.toList)) = some role)
    (bare : trim field.name.toList = field.name.toList) (same : SameName field.name name) {address : String}
    (given : address ∈ field.addresses.getD []) (least : config.shortestToken ≤ (lower value.toList).length)
    (most : (lower value.toList).length ≤ config.longestToken) (kept : isKept (lower value.toList) = true)
    (occurs : OccursIn value.toList address.toList) :
    index.Hits (.header name (.address value)) (.ofEvents message events) := by
  rw [bare, String.ofList_toList] at hasRole
  have asked := AddressRole.ofHeader?_of_sameName hasRole same
  have listed : field ∈ (ContentDocument.ofEvents message events).headers :=
    ContentDocument.mem_headers_ofEvents.mpr told
  have selects : index.Selects (.header name (.address value)) (.ofEvents message events) :=
    (lives.selects_address_iff mode live asked least most kept).mpr
      ⟨field, listed, hasRole, address, given, occurs⟩
  have proper := AddressRole.trim_ne_nil_of_role asked
  exact selects.hits (Criterion.validate_header proper _ (by simp))

/-- The sender of a greeting is found under other spellings of the name. -/
theorem hits_told_address_greeting :
    (ofLetter .small greeting).Hits (.header " fROM\t" (.address "POST@Ex")) (.ofEvents emptyLetter greeting) := by
  have told : .header ⟨"From", "post@example.org", some ["post@example.org"]⟩ ∈ greeting := by decide +kernel
  have hasRole : AddressRole.ofHeader? (String.ofList (trim "From".toList)) = some .sender := by decide
  exact Lives.hits_told_address (lives_ofLetter .small greeting) Config.small_bySubstrings
    ((content_mem_ofLetter .small greeting rfl).mpr rfl) told hasRole (by decide) (by decide +kernel)
    (List.mem_singleton.mpr rfl) (by decide +kernel) (by decide +kernel) (by decide +kernel) (by decide +kernel)

/-- A letter with a sender whose header has blanks around its name. -/
def spacedSender : List Mime.Event :=
  [.header ⟨" From ", "post@example.org", some ["post@example.org"]⟩]

/-- With blanks around its name a header has no role where it is indexed, but it has one where it is asked for. -/
theorem misses_sender_with_blanks :
    Config.small.BySubstrings ∧ Lives .small (ofLetter .small spacedSender)
      ∧ .content (.ofEvents emptyLetter spacedSender) ∈ (ofLetter .small spacedSender).committed.documents
      ∧ ∃ field, .header field ∈ spacedSender
        ∧ AddressRole.ofHeader? (String.ofList (trim field.name.toList)) = some .sender
        ∧ SameName field.name "From" ∧ "post@example.org" ∈ field.addresses.getD []
        ∧ Config.small.shortestToken ≤ (lower "post@example".toList).length
        ∧ (lower "post@example".toList).length ≤ Config.small.longestToken
        ∧ isKept (lower "post@example".toList) = true ∧ OccursIn "post@example".toList "post@example.org".toList
        ∧ ¬ (ofLetter .small spacedSender).Selects (.header "From" (.address "post@example"))
          (.ofEvents emptyLetter spacedSender)
        ∧ ¬ (ofLetter .small spacedSender).Finds ⟨"inbox"⟩ (.header "From" (.address "post@example")) 1 := by
  have nothing : (ofLetter .small spacedSender).search ⟨"inbox"⟩ (.header "From" (.address "post@example"))
      = .ok [] := by decide +kernel
  have missed : ¬ (ofLetter .small spacedSender).Finds ⟨"inbox"⟩ (.header "From" (.address "post@example")) 1 :=
    not_finds_of_nothing nothing (by decide)
  refine ⟨Config.small_bySubstrings, lives_ofLetter _ _, (content_mem_ofLetter _ _ rfl).mpr rfl,
    ⟨" From ", "post@example.org", some ["post@example.org"]⟩, List.mem_cons_self, by decide +kernel,
    by decide +kernel, by decide, by decide +kernel, by decide +kernel, by decide +kernel, by decide +kernel,
    fun selects => missed ?_, missed⟩
  exact selects.finds (by decide) (by decide)

end Index

/-! ## Addresses in the line of their header -/

/-- A token of a sentence starts one of every sentence that goes on from it. -/
theorem IsTokenOf.exists_of_prefix {shortest longest : Nat} {sentence longer text : List Char}
    (isToken : IsTokenOf shortest longest sentence text) (ordered : shortest ≤ longest)
    (leads : sentence <+: longer) : ∃ other, IsTokenOf shortest longest longer other ∧ text <+: other := by
  unfold IsTokenOf at *
  by_cases below : longer.length < shortest
  · have short : sentence.length < shortest := Nat.lt_of_le_of_lt leads.length_le below
    rw [if_pos short] at isToken
    exact ⟨longer, (if_pos below).mpr rfl, isToken ▸ leads⟩
  · split at isToken
    · next short =>
      -- the longer sentence starts with a token of the shortest length
      have length : (longer.take shortest).length = shortest :=
        List.length_take_of_le (Nat.not_lt.mp below)
      refine ⟨longer.take shortest, ?_, ?_⟩
      · rw [if_neg below]
        exact ⟨length.ge, length.le.trans ordered, (List.take_prefix _ _).isInfix⟩
      · rw [isToken, List.prefix_take_iff]
        exact ⟨leads, Nat.le_of_lt short⟩
    · obtain ⟨least, most, inside⟩ := isToken
      refine ⟨text, ?_, List.prefix_rfl⟩
      rw [if_neg below]
      exact ⟨least, most, inside.trans leads.isInfix⟩

/-- A token of a text that stands in a list starts one of the list. -/
theorem Analysis.exists_token_of_standsInList {analysis : Analysis} (bounded : analysis.IsBounded)
    {text whole : List Char} (stands : StandsInList text whole) {token : Token}
    (listed : token ∈ analysis.tokens text) :
    ∃ longer ∈ analysis.tokens whole, token.text <+: longer.text := by
  cases analysis with
  | substrings shortest longest =>
      obtain ⟨positive, ordered⟩ := bounded
      obtain ⟨sentence, cut, isToken⟩ := sound_sentenceTokens listed
      obtain ⟨further, found, leads⟩ := stands.lower.exists_sentence cut
      obtain ⟨other, isOther, starts⟩ := isToken.exists_of_prefix ordered leads
      obtain ⟨longer, present, rfl⟩ := (Analysis.mem_tokens positive).mpr ⟨further, found, isOther⟩
      exact ⟨longer, present, starts⟩
  | words =>
      obtain ⟨word, cut, form⟩ := exists_word_of_mem_wordTokens listed
      obtain ⟨further, found, leads⟩ := stands.exists_word cut
      obtain ⟨longer, present, same⟩ := exists_token_of_mem_words found
      exact ⟨longer, present, by rwa [form, same]⟩

namespace Mime

/-- The value of a header with addresses is their texts with commas between. -/
def Decoder.JoinsAddresses (decoder : Decoder) : Prop :=
  ∀ bytes events field texts, decoder bytes = .ok events → .header field ∈ events →
    field.addresses = some texts → field.value = String.intercalate ", " texts

theorem Header.value_field {header : Header} {texts : List String} (given : header.field.addresses = some texts) :
    header.field.value = String.intercalate ", " texts := by
  unfold field at given ⊢
  split at given
  · obtain rfl := Option.some.inj given
    rfl
  · simp at given

/-- A decoder joins the addresses if each header that is read does. -/
theorem joinsAddresses_decoderOf {α : Type} {field : α → HeaderField} (read : Bytes → Option (List α × List Part))
    (joins : ∀ header texts, (field header).addresses = some texts →
      (field header).value = String.intercalate ", " texts) :
    (decoderOf field read).JoinsAddresses := by
  intro bytes events told texts decoded listed given
  unfold decoderOf at decoded
  split at decoded
  · simp at decoded
  · next headers parts _ =>
    obtain rfl := Except.ok.inj decoded
    rcases List.mem_append.mp listed with own | part
    · obtain ⟨header, -, same⟩ := List.mem_map.mp own
      obtain rfl := Event.header.inj same
      exact joins header texts given
    · simp at part

theorem joinsAddresses_readEvents : readEvents.JoinsAddresses :=
  joinsAddresses_decoderOf readMessage? fun _ _ given => Header.value_field given

/-- Each address that such a decoder tells of a header stands in its value. -/
theorem Decoder.JoinsAddresses.standsInList {decoder : Decoder} (joins : decoder.JoinsAddresses) {bytes : Bytes}
    {events : List Event} {field : HeaderField} {address : String} (decoded : decoder bytes = .ok events)
    (told : .header field ∈ events) (given : address ∈ field.addresses.getD []) :
    StandsInList address.toList field.value.toList := by
  cases held : field.addresses with
  | none => simp [held] at given
  | some texts =>
      rw [joins bytes events field texts decoded told held]
      rw [held] at given
      exact standsInList_of_mem given

end Mime

namespace Index

variable {config : Config} {index : Index} {message : Message} {events : List Mime.Event} {name value : String}
  {role : AddressRole}

/-- Where the addresses of a role stand in the values of their headers, a search in the header selects as well. -/
theorem Lives.selects_contains_of_address (lives : Lives config index)
    (live : .content (.ofEvents message events) ∈ index.committed.documents)
    (stands : ∀ field, .header field ∈ events → ∀ address ∈ field.addresses.getD [],
      StandsInList address.toList field.value.toList)
    (asked : AddressRole.ofHeader? (String.ofList (trim name.toList)) = some role)
    (keeps : ∀ field, .header field ∈ events → AddressRole.ofHeader? field.name = some role →
      ∀ token ∈ index.analysis.headerTokens (Document.namedLine field).toList, isKept token.text = true)
    (selects : index.Selects (.header name (.address value)) (.ofEvents message events)) :
    index.Selects (.header name (.contains value)) (.ofEvents message events) := by
  refine (lives.selects_contains live).mpr fun start wanted => ?_
  obtain ⟨term, indexed, starts⟩ := (lives.selects_address live asked).mp selects start wanted
  obtain ⟨⟨address, held, produced⟩, -⟩ := Document.mem_terms.mp indexed
  obtain ⟨field, listed, found, given⟩ := Document.mem_values_addresses.mp held
  obtain ⟨token, cut, rfl⟩ := List.mem_map.mp produced
  have told := ContentDocument.mem_headers_ofEvents.mp listed
  obtain ⟨longer, present, leads⟩ :=
    Analysis.exists_token_of_standsInList lives.isBounded_analysis (stands field told address given) cut
  have behind : headerScope name.toList ++ longer.text
      ∈ index.analysis.termsOf .header (Document.namedLine field).toList := by
    rw [AddressRole.headerScope_of_role asked]
    exact AddressRole.mem_headerTerms found present
  have kept : isKept (headerScope name.toList ++ longer.text) = true := by
    obtain ⟨whole, own, same⟩ := List.mem_map.mp behind
    rw [← same]
    exact keeps field told found whole own
  refine ⟨_, Document.mem_terms.mpr ⟨⟨_, List.mem_map_of_mem listed, behind⟩, kept⟩, ?_⟩
  exact (List.prefix_append_right_inj _).mpr (starts.trans leads)

/--
The usual decoder joins the addresses of a header. Of messages that it or another such decoder reads, those that a
search for an address selects are also selected by a search for the same value in the header. All tokens of the
headers of the role are kept.
-/
theorem Lives.contains_of_address (lives : Lives config index)
    (live : .content (.ofEvents message events) ∈ index.committed.documents)
    (asked : AddressRole.ofHeader? (String.ofList (trim name.toList)) = some role)
    (keeps : ∀ field, .header field ∈ events → AddressRole.ofHeader? field.name = some role →
      ∀ token ∈ index.analysis.headerTokens (Document.namedLine field).toList, isKept token.text = true)
    (selects : index.Selects (.header name (.address value)) (.ofEvents message events)) :
    Mime.readEvents.JoinsAddresses
      ∧ ∀ decoder : Mime.Decoder, decoder.JoinsAddresses → decoder message.content = .ok events →
        index.Hits (.header name (.contains value)) (.ofEvents message events) := by
  refine ⟨Mime.joinsAddresses_readEvents, fun decoder joins decoded => ?_⟩
  have contained := lives.selects_contains_of_address live
    (fun field told address given => joins.standsInList decoded told given) asked keeps selects
  exact contained.hits (Criterion.validate_header (AddressRole.trim_ne_nil_of_role asked) _ (by simp))

/-- A letter to two people, of whom one has a comma in the name. -/
def twoReaders : Message :=
  { emptyLetter with content := Utf8.encode "To: \"Ann, B\" <ann@example.org>, post@example.org\n\n" }

/-- What the usual decoder tells of the letter. -/
def twoReadersEvents : List Mime.Event :=
  [.header ⟨"To", "Ann, B <ann@example.org>, post@example.org",
      some ["Ann, B <ann@example.org>", "post@example.org"]⟩,
    .body ⟨"text", "plain", some "utf-8", []⟩]

/-- An index of the letter. -/
def twoReadersIndex : Index :=
  ((ofSnapshot .small Mime.readEvents []).apply (.add ⟨"inbox"⟩ twoReaders)).1

theorem contains_of_address_twoReaders :
    Mime.readEvents twoReaders.content = .ok twoReadersEvents
      ∧ twoReadersIndex.Hits (.header " tO" (.contains "B <ANN")) (.ofEvents twoReaders twoReadersEvents) := by
  have read : Mime.readEvents twoReaders.content = .ok twoReadersEvents := by decide +kernel
  have lives : Lives .small twoReadersIndex := .called _ (.opened _)
  have live : .content (.ofEvents twoReaders twoReadersEvents) ∈ twoReadersIndex.committed.documents := by
    decide +kernel
  have asked : AddressRole.ofHeader? (String.ofList (trim " tO".toList)) = some .recipient := by decide
  have selects : twoReadersIndex.Selects (.header " tO" (.address "B <ANN"))
      (.ofEvents twoReaders twoReadersEvents) :=
    (lives.selects_iff live rfl).mpr (by decide +kernel)
  have keeps : ∀ field, .header field ∈ twoReadersEvents → AddressRole.ofHeader? field.name = some .recipient →
      ∀ token ∈ twoReadersIndex.analysis.headerTokens (Document.namedLine field).toList,
        isKept token.text = true := by
    intro field told _
    simp only [twoReadersEvents, List.mem_cons, Mime.Event.header.injEq, reduceCtorEq, List.not_mem_nil,
      or_false] at told
    subst told
    decide +kernel
  obtain ⟨joins, contains⟩ := Lives.contains_of_address lives live asked keeps selects
  exact ⟨read, contains Mime.readEvents joins read⟩

end Index

end Letterbox
