import Letterbox.Proofs.DocumentKey

/-!
# What queries select

Which entries answer the queries of this library, said of the documents of the entries. Each query has one
statement, so that nothing later looks into terms and columns.
-/

namespace Letterbox

namespace Document

theorem values_mailbox (document : Document) :
    document.values .mailbox = [.text document.mailbox.name] := by
  cases document <;> rfl

theorem values_kind (document : Document) : document.values .kind = [.text document.kind.name] := by
  cases document <;> rfl

theorem values_id (document : Document) : document.values .id = [.text document.key] := by
  cases document <;> rfl

theorem values_uid (document : Document) : document.values .uid = [.word document.uid] := by
  cases document <;> rfl

/-- The terms of a document are the kept ones of its texts. -/
theorem mem_terms {document : Document} {analysis : Analysis} {field : Field} {term : Term} :
    term ∈ document.terms analysis field
      ↔ (∃ text : String, .text text ∈ document.values field ∧ term ∈ analysis.termsOf field text.toList)
        ∧ isKept term = true := by
  rw [terms, List.mem_filter, List.mem_flatMap]
  refine and_congr_left fun _ => ?_
  constructor
  · rintro ⟨letters, listed, found⟩
    obtain ⟨value, held, text⟩ := List.mem_filterMap.mp listed
    cases value with
    | text content =>
        obtain rfl := Option.some.inj text
        exact ⟨content, held, found⟩
    | word value => simp [Value.text?] at text
    | integer value => simp [Value.text?] at text
  · rintro ⟨text, held, found⟩
    exact ⟨text.toList, List.mem_filterMap.mpr ⟨_, held, rfl⟩, found⟩

end Document

theorem DocumentKind.name_inj {one other : DocumentKind} : one.name = other.name ↔ one = other := by
  cases one <;> cases other <;> decide

theorem DocumentKind.isKept_name (kind : DocumentKind) : isKept kind.name.toList = true := by
  cases kind <;> decide

theorem Mailbox.name_inj {one other : Mailbox} : one.name = other.name ↔ one = other := by
  cases one
  cases other
  simp

namespace Query

variable {entry : Entry}

/-- A field with one text that is indexed as it stands has that text as its term, if it is kept. -/
theorem selects_term_of_values {field : Field} {text : String} {wanted : Term}
    (values : entry.document.values field = [.text text])
    (whole : ∀ analysis : Analysis, ∀ letters, analysis.termsOf field letters = [letters]) :
    (term field wanted).selects entry = true ↔ text.toList = wanted ∧ isKept wanted = true := by
  simp only [selects, Entry.terms_eq, Document.terms, values, List.filterMap_cons, Value.text?,
    List.filterMap_nil, List.flatMap_cons, List.flatMap_nil, whole, List.append_nil,
    List.contains_iff_mem, List.mem_filter, List.mem_singleton]
  constructor
  · rintro ⟨rfl, kept⟩
    exact ⟨rfl, kept⟩
  · rintro ⟨rfl, kept⟩
    exact ⟨rfl, kept⟩

@[simp] theorem selects_inMailbox {mailbox : Mailbox} :
    (inMailbox mailbox).selects entry = true
      ↔ entry.document.mailbox = mailbox ∧ isKept mailbox.name.toList = true := by
  rw [inMailbox, selects_term_of_values entry.document.values_mailbox (fun _ _ => rfl),
    String.toList_inj, Mailbox.name_inj]

@[simp] theorem selects_ofKind {kind : DocumentKind} :
    (ofKind kind).selects entry = true ↔ entry.document.kind = kind := by
  rw [ofKind, selects_term_of_values entry.document.values_kind (fun _ _ => rfl),
    String.toList_inj, DocumentKind.name_inj, and_iff_left kind.isKept_name]

@[simp] theorem selects_both {first second : Query} :
    (both first second).selects entry = true
      ↔ first.selects entry = true ∧ second.selects entry = true := by
  simp [selects]

@[simp] theorem selects_either {first second : Query} :
    (either first second).selects entry = true
      ↔ first.selects entry = true ∨ second.selects entry = true := by
  simp [selects]

@[simp] theorem selects_without {query excluded : Query} :
    (without query excluded).selects entry = true
      ↔ query.selects entry = true ∧ ¬ excluded.selects entry = true := by
  simp [selects]

@[simp] theorem selects_numbers {field : Field} {least most : Int} :
    (numbers field least most).selects entry = true
      ↔ ∃ number ∈ entry.document.numbers field, least ≤ number ∧ number ≤ most := by
  simp [selects]

@[simp] theorem selects_inRange {range : UidRange} :
    (inRange range).selects entry = true ↔ range.contains entry.uid = true := by
  simp [inRange, Document.numbers, entry.document.values_uid, Value.number?, UidRange.contains,
    Entry.uid, UInt64.le_iff_toNat_le]

/-- A document whose key is indexed is found by its key and its kind, and nothing else is. -/
theorem selects_withKey {document : Document} (fits : document.label.Fits) :
    (withKey document.key document.kind).selects entry = true ↔ entry.label = document.label := by
  have kept : isKept document.key.toList = true := by
    rw [← document.key_label]
    exact fits
  rw [withKey, selects_both, selects_ofKind,
    selects_term_of_values entry.document.values_id (fun _ _ => rfl), String.toList_inj,
    and_iff_left kept, Entry.label, DocumentLabel.eq_iff_key, Document.key_label, Document.key_label]
  rfl

/-- A query for the key of a document finds at most those with its label, however long the key is. -/
theorem label_of_selects_withKey {document : Document}
    (selected : (withKey document.key document.kind).selects entry = true) : entry.label = document.label := by
  rw [withKey, selects_both, selects_ofKind,
    selects_term_of_values entry.document.values_id (fun _ _ => rfl), String.toList_inj] at selected
  obtain ⟨⟨key, -⟩, kind⟩ := selected
  rw [Entry.label, DocumentLabel.eq_iff_key, Document.key_label, Document.key_label]
  exact ⟨key, kind⟩

@[simp] theorem selects_allMessages :
    allMessages.selects entry = true ↔ entry.document.kind = .message := by
  have last := entry.uid.toNat_lt
  simp only [allMessages, selects_both, selects_inRange, selects_ofKind, and_iff_right_iff_imp]
  intro _
  simp [UidRange.all, UidRange.contains, UInt64.le_iff_toNat_le, lastUid]
  omega

/-- The queries for entries of which any is answered. -/
@[simp] theorem selects_anyOf {queries : List Query} :
    (anyOf queries).selects entry = true ↔ ∃ query ∈ queries, query.selects entry = true := by
  induction queries with
  | nil => simp [anyOf, selects]
  | cons query rest ih =>
      cases rest with
      | nil => simp [anyOf]
      | cons next others =>
          rw [anyOf, selects_either, ih, List.exists_mem_cons_iff (a := query)]
          simp

/-- The queries for entries of which every one is answered. -/
@[simp] theorem selects_everyOf {queries : List Query} :
    (everyOf queries).selects entry = true ↔ ∀ query ∈ queries, query.selects entry = true := by
  induction queries with
  | nil => simp [everyOf, selects]
  | cons query rest ih =>
      cases rest with
      | nil => simp [everyOf]
      | cons next others =>
          rw [everyOf, selects_both, ih, List.forall_mem_cons (a := query)]
          simp

@[simp] theorem selects_messagesIn {ranges : List UidRange} :
    (messagesIn ranges).selects entry = true
      ↔ (∃ range ∈ ranges, range.contains entry.uid = true) ∧ entry.document.kind = .message := by
  simp [messagesIn]

end Query

end Letterbox
