import Letterbox.Index
import Mathlib

/-!
# Keys of documents

A document is found again by its key and its kind. Main statement: together they tell the mailbox and the
number of the message, whatever the name of the mailbox looks like, so putting a document in the place of
another touches no third one.
-/

namespace Letterbox

/-- What tells the documents of an index apart. -/
structure DocumentLabel where
  kind : DocumentKind
  mailbox : Mailbox
  uid : Uid
deriving DecidableEq

/-- The label of a document. -/
def Document.label (document : Document) : DocumentLabel :=
  ⟨document.kind, document.mailbox, document.uid⟩

/-- The label of the document of an entry. -/
def Entry.label (entry : Entry) : DocumentLabel :=
  entry.document.label

theorem Entry.label_eq_iff {entry : Entry} {kind : DocumentKind} {mailbox : Mailbox} {uid : Uid} :
    entry.label = ⟨kind, mailbox, uid⟩
      ↔ entry.document.kind = kind ∧ entry.document.mailbox = mailbox ∧ entry.uid = uid := by
  simp [Entry.label, Document.label, Entry.uid]

/-- The key of a label: that of every document with it. -/
def DocumentLabel.key : DocumentLabel → String
  | ⟨.message, mailbox, uid⟩ => contentKey mailbox uid
  | ⟨.flags, mailbox, uid⟩ => flagsKey mailbox uid

/-- Two texts that end behind a separator which does not occur again are cut there in one way only. -/
theorem cut_at_last_separator {separator : Char} {first second before after : List Char}
    (absent : separator ∉ before) (missing : separator ∉ after)
    (same : first ++ separator :: before = second ++ separator :: after) :
    first = second ∧ before = after := by
  rcases List.append_eq_append_iff.mp same with ⟨more, rfl, rest⟩ | ⟨more, rfl, rest⟩
  · cases more with
    | nil => simpa using rest
    | cons letter others =>
        obtain ⟨-, rfl⟩ := List.cons.inj rest
        exact absurd (by simp) absent
  · cases more with
    | nil => simpa [eq_comm] using rest
    | cons letter others =>
        obtain ⟨-, rfl⟩ := List.cons.inj rest
        exact absurd (by simp) missing

theorem dash_not_mem_decimal (number : Nat) : '-' ∉ (toString number).toList := by
  intro h
  rw [Nat.toString_eq_repr, Nat.toList_repr] at h
  have digit := Nat.isDigit_of_mem_toDigits (by decide) (by decide) h
  exact absurd digit (by decide)

theorem toList_contentKey (mailbox : Mailbox) (uid : Uid) :
    (contentKey mailbox uid).toList
      = mailbox.name.toList ++ '-' :: (toString uid.toNat).toList := by
  simp [contentKey]

/-- The key of a content names its message. -/
theorem contentKey_inj {mailbox other : Mailbox} {uid number : Uid} :
    contentKey mailbox uid = contentKey other number ↔ mailbox = other ∧ uid = number := by
  constructor
  · intro same
    have letters := congrArg String.toList same
    rw [toList_contentKey, toList_contentKey] at letters
    obtain ⟨names, numbers⟩ :=
      cut_at_last_separator (dash_not_mem_decimal _) (dash_not_mem_decimal _) letters
    refine ⟨?_, ?_⟩
    · cases mailbox
      cases other
      exact congrArg Mailbox.mk (String.toList_inj.mp names)
    · exact UInt64.toNat_inj.mp (Nat.repr_inj.mp (String.toList_inj.mp numbers))
  · rintro ⟨rfl, rfl⟩
    rfl

/-- The key of a set of flags names its message. -/
theorem flagsKey_inj {mailbox other : Mailbox} {uid number : Uid} :
    flagsKey mailbox uid = flagsKey other number ↔ mailbox = other ∧ uid = number := by
  rw [← contentKey_inj]
  constructor
  · intro same
    have letters := congrArg String.toList same
    simp only [flagsKey, String.toList_append] at letters
    exact String.toList_inj.mp (List.append_cancel_left letters)
  · intro same
    rw [flagsKey, flagsKey, same]

theorem Document.key_label (document : Document) : document.label.key = document.key := by
  cases document <;> rfl

/-- A key and a kind name one label. -/
theorem DocumentLabel.eq_iff_key (one other : DocumentLabel) :
    one = other ↔ one.key = other.key ∧ one.kind = other.kind := by
  constructor
  · rintro rfl
    exact ⟨rfl, rfl⟩
  · rintro ⟨keys, kinds⟩
    obtain ⟨kind, mailbox, uid⟩ := one
    obtain ⟨otherKind, otherMailbox, otherUid⟩ := other
    simp only at kinds
    subst kinds
    cases kind with
    | message =>
        obtain ⟨rfl, rfl⟩ := contentKey_inj.mp keys
        rfl
    | flags =>
        obtain ⟨rfl, rfl⟩ := flagsKey_inj.mp keys
        rfl

/-- Whether the key of a label is short enough to be indexed. -/
def DocumentLabel.Fits (label : DocumentLabel) : Prop :=
  isKept label.key.toList = true

instance (label : DocumentLabel) : Decidable label.Fits :=
  inferInstanceAs (Decidable (_ = true))

theorem isKept_of_byteSize_le {term other : Term} (h : Text.byteSize term ≤ Text.byteSize other)
    (kept : isKept other = true) : isKept term = true := by
  simp only [isKept, decide_eq_true_eq] at kept ⊢
  omega

/-- A mailbox whose keys are indexed is indexed itself. -/
theorem DocumentLabel.Fits.mailbox {label : DocumentLabel} (fits : label.Fits) :
    isKept label.mailbox.name.toList = true := by
  refine isKept_of_byteSize_le ?_ fits
  obtain ⟨kind, mailbox, uid⟩ := label
  cases kind <;>
    simp only [DocumentLabel.key, flagsKey, contentKey, String.toList_append, Text.byteSize_append] <;>
    omega

/-- The key of the content is shorter than that of the flags. -/
theorem DocumentLabel.Fits.content {mailbox : Mailbox} {uid : Uid}
    (fits : DocumentLabel.Fits ⟨.flags, mailbox, uid⟩) : DocumentLabel.Fits ⟨.message, mailbox, uid⟩ := by
  refine isKept_of_byteSize_le ?_ fits
  simp only [DocumentLabel.key, flagsKey, String.toList_append, Text.byteSize_append]
  omega

theorem byteSize_of_single {letters : List Char} (single : ∀ letter ∈ letters, letter.utf8Size = 1) :
    Text.byteSize letters = letters.length := by
  induction letters with
  | nil => rfl
  | cons letter rest ih =>
      rw [Text.byteSize, single letter List.mem_cons_self,
        ih fun other later => single other (List.mem_cons_of_mem _ later), List.length_cons, Nat.add_comm]

theorem utf8Size_of_isDigit {letter : Char} (digit : letter.isDigit = true) : letter.utf8Size = 1 := by
  have bound : letter.val ≤ 0x7F := by
    simp only [Char.isDigit, Bool.and_eq_true, decide_eq_true_eq, ge_iff_le,
      UInt32.le_iff_toNat_le] at digit ⊢
    exact Nat.le_trans digit.2 (by decide)
  simp [Char.utf8Size, bound]

/-- A number of 64 bits has at most twenty digits. -/
theorem byteSize_decimal_le (uid : Uid) : Text.byteSize (toString uid.toNat).toList ≤ 20 := by
  rw [Nat.toString_eq_repr, Nat.toList_repr, byteSize_of_single]
  · exact Nat.toDigits_length 10 _ 20 (by decide) (Nat.lt_trans uid.toNat_lt (by decide))
  · intro letter listed
    exact utf8Size_of_isDigit (Nat.isDigit_of_mem_toDigits (by decide) (by decide) listed)

/-- All keys of a mailbox are indexed if its name leaves room for the rest of them. -/
theorem DocumentLabel.fits_of_name {mailbox : Mailbox}
    (short : Text.byteSize mailbox.name.toList + 27 ≤ maxTermBytes) (kind : DocumentKind) (uid : Uid) :
    DocumentLabel.Fits ⟨kind, mailbox, uid⟩ := by
  have digits := byteSize_decimal_le uid
  have dash : Text.byteSize "-".toList = 1 := by decide
  have flags : Text.byteSize DocumentKind.flags.name.toList = 5 := by decide
  cases kind <;>
    simp only [Fits, isKept, decide_eq_true_eq, DocumentLabel.key, flagsKey, contentKey,
      String.toList_append, Text.byteSize_append, dash, flags] <;>
    omega

end Letterbox
