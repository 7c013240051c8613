import Letterbox.Proofs.TermRange
import Letterbox.Snapshot

/-!
# Terms as bytes

Texts are ordered by their letters, and a dictionary of terms by their bytes in UTF-8. Main statements: both
orders are the same, so the terms that begin with a start are those whose bytes lie from its own bytes up to
those of its successor, and a query by a start is answered by the entries that have such a term.
-/

namespace Letterbox

open Text

namespace Term

/-- The bytes of a term in UTF-8. -/
def bytes (term : Term) : List UInt8 :=
  (String.ofList term).toUTF8.data.toList

@[simp] theorem bytes_nil : bytes [] = [] := rfl

@[simp] theorem bytes_cons (letter : Char) (rest : List Char) :
    bytes (letter :: rest) = String.utf8EncodeChar letter ++ bytes rest := by
  simp [bytes, List.utf8Encode]

/-! ## The order of bytes -/

/-- The lowest digits of a number in base 64, each as a byte that goes on with a letter. -/
def trailing (code : Nat) : Nat → List UInt8
  | 0 => []
  | count + 1 => UInt8.ofNat (code / 64 ^ count % 64 + 128) :: trailing code count

/-- A letter has one byte to four, by its size. The first one tells how many. -/
theorem exists_encoded_eq (letter : Char) :
    ∃ count mark, String.utf8EncodeChar letter
        = UInt8.ofNat (letter.toNat / 64 ^ count + mark) :: trailing letter.toNat count
      ∧ (count = 0 ∧ mark = 0 ∧ letter.toNat < 0x80
        ∨ count = 1 ∧ mark = 0xC0 ∧ 0x80 ≤ letter.toNat ∧ letter.toNat < 0x800
        ∨ count = 2 ∧ mark = 0xE0 ∧ 0x800 ≤ letter.toNat ∧ letter.toNat < 0x10000
        ∨ count = 3 ∧ mark = 0xF0 ∧ 0x10000 ≤ letter.toNat ∧ letter.toNat < 0x110000) := by
  have valid : letter.toNat.isValidChar := letter.valid
  simp only [Nat.isValidChar, Char.toNat] at valid
  simp only [String.utf8EncodeChar, Char.toNat]
  split
  · exact ⟨0, 0, by simp [trailing], by omega⟩
  · split
    · refine ⟨1, 0xC0, ?_, by omega⟩
      rw [Nat.mod_eq_of_lt (by omega)]
      simp [trailing]
    · split
      · refine ⟨2, 0xE0, ?_, by omega⟩
        rw [Nat.mod_eq_of_lt (by omega)]
        simp [trailing]
      · refine ⟨3, 0xF0, ?_, by omega⟩
        rw [Nat.mod_eq_of_lt (a := _ / 262144) (by omega)]
        simp [trailing]

/-- Numbers that differ only in their lowest digits are in the order of these. -/
theorem trailing_lt {one two : Nat} (lower : one < two) {count : Nat}
    (same : one / 64 ^ count = two / 64 ^ count) (rest others : List UInt8) :
    trailing one count ++ rest < trailing two count ++ others := by
  induction count with
  | zero =>
      rw [Nat.pow_zero, Nat.div_one, Nat.div_one] at same
      exact absurd same (Nat.ne_of_lt lower)
  | succ count ih =>
      rw [Nat.pow_succ, ← Nat.div_div_eq_div_mul, ← Nat.div_div_eq_div_mul] at same
      have ordered : one / 64 ^ count ≤ two / 64 ^ count := Nat.div_le_div_right (Nat.le_of_lt lower)
      refine List.cons_lt_cons_iff.mpr ?_
      by_cases equal : one / 64 ^ count = two / 64 ^ count
      · rw [equal]
        exact Or.inr ⟨rfl, ih equal⟩
      · refine Or.inl ?_
        rw [UInt8.lt_iff_toNat_lt, UInt8.toNat_ofNat', UInt8.toNat_ofNat']
        omega

/-- A smaller letter has smaller bytes, whatever follows it. -/
theorem encoded_lt {one two : Char} (lower : one.toNat < two.toNat) (rest others : List UInt8) :
    String.utf8EncodeChar one ++ rest < String.utf8EncodeChar two ++ others := by
  obtain ⟨count, mark, form, size⟩ := exists_encoded_eq one
  obtain ⟨length, sign, other, range⟩ := exists_encoded_eq two
  rw [form, other, List.cons_append, List.cons_append, List.cons_lt_cons_iff, UInt8.lt_iff_toNat_lt,
    UInt8.toNat_ofNat', UInt8.toNat_ofNat']
  by_cases same : count = length ∧ one.toNat / 64 ^ count = two.toNat / 64 ^ count
  · obtain ⟨rfl, same⟩ := same
    obtain rfl : mark = sign := by omega
    exact Or.inr ⟨by rw [same], trailing_lt lower same rest others⟩
  · -- a longer form has a greater first byte, and so has a greater number in a form of the same length
    refine Or.inl ?_
    rcases size with ⟨rfl, rfl, size⟩ | ⟨rfl, rfl, size⟩ | ⟨rfl, rfl, size⟩ | ⟨rfl, rfl, size⟩ <;>
      rcases range with ⟨rfl, rfl, range⟩ | ⟨rfl, rfl, range⟩ | ⟨rfl, rfl, range⟩ | ⟨rfl, rfl, range⟩ <;>
      omega

/-- Texts are in the order of their bytes. -/
theorem bytes_lt_of_precedes {first second : Term} (precedes : lettersPrecede first second = true) :
    first.bytes < second.bytes := by
  induction first generalizing second with
  | nil =>
      cases second with
      | nil => simp at precedes
      | cons letter rest =>
          obtain ⟨count, mark, form, -⟩ := exists_encoded_eq letter
          rw [bytes_cons, form]
          exact List.nil_lt_cons _ _
  | cons one rest ih =>
      cases second with
      | nil => simp at precedes
      | cons two others =>
          rw [bytes_cons, bytes_cons]
          unfold lettersPrecede at precedes
          split at precedes
          · next same =>
            rw [same]
            exact List.append_left_lt (ih precedes)
          · exact encoded_lt (by simpa using precedes) _ _

theorem lettersPrecede_iff_bytes {first second : Term} :
    lettersPrecede first second = true ↔ first.bytes < second.bytes := by
  refine ⟨bytes_lt_of_precedes, fun lower => ?_⟩
  by_contra notBefore
  by_cases same : first = second
  · rw [same] at lower
    exact List.lt_irrefl _ lower
  · exact List.lt_asymm lower (bytes_lt_of_precedes (lettersPrecede_total same notBefore))

/-- A range of terms is a range of bytes. -/
theorem inRange_iff_bytes {lower term : Term} {upper : Option Term} :
    inRange lower upper term = true
      ↔ lower.bytes ≤ term.bytes ∧ ∀ bound ∈ upper, term.bytes < bound.bytes := by
  simp only [inRange, Bool.and_eq_true, Bool.not_eq_true', ← Bool.not_eq_true, Option.all_eq_true,
    lettersPrecede_iff_bytes]
  rfl

end Term

namespace Query

/-- A query for a range of terms is answered by the entries that have a term with bytes in the range. -/
theorem selects_terms_iff_bytes {entry : Entry} {field : Field} {lower : Term} {upper : Option Term} :
    (terms field lower upper).selects entry = true
      ↔ ∃ term ∈ entry.terms field, lower.bytes ≤ term.bytes ∧ ∀ bound ∈ upper, term.bytes < bound.bytes := by
  simp only [selects, List.any_eq_true, Term.inRange_iff_bytes]

/--
The terms that begin with a start are those with bytes from its own up to those of its successor, or all from
its own on if it has no successor. A query by the start is answered by exactly the entries with such a term.
-/
theorem starting_exact (start : Term) :
    (∀ bound, start.successor? = some bound →
        ∀ term : Term, start <+: term ↔ start.bytes ≤ term.bytes ∧ term.bytes < bound.bytes)
      ∧ (start.successor? = none → ∀ term : Term, start <+: term ↔ start.bytes ≤ term.bytes)
      ∧ ∀ (snapshot : Snapshot) (field : Field) (entry : Entry),
        entry ∈ snapshot.select (.starting field start)
          ↔ entry ∈ snapshot ∧ ∃ term ∈ entry.terms field, start <+: term := by
  have between : ∀ term : Term, start <+: term
      ↔ start.bytes ≤ term.bytes ∧ ∀ bound ∈ start.successor?, term.bytes < bound.bytes := by
    intro term
    rw [← Term.inRange_successor, Term.inRange_iff_bytes]
  refine ⟨fun bound last term => ?_, fun last term => ?_, fun snapshot field entry => ?_⟩
  · rw [between, last]
    simp
  · rw [between, last]
    simp
  · rw [Snapshot.select, List.mem_filter, starting, selects_terms_iff_bytes]
    simp only [between]

/-- The greatest letter is carried over, and the letter before the surrogates is followed by the one after them. -/
theorem starting_exact_carried :
    let greatest := Char.ofNat 0x10FFFF
    let before := Char.ofNat 0xD7FF
    let after := Char.ofNat 0xE000
    (Term.successor? ['a', greatest] = some ['b']
        ∧ (['a', greatest] <+: ['a', greatest, '!']
          ↔ Term.bytes ['a', greatest] ≤ Term.bytes ['a', greatest, '!']
            ∧ Term.bytes ['a', greatest, '!'] < Term.bytes ['b']))
      ∧ (Term.successor? [before] = some [after]
        ∧ ([before] <+: [after] ↔ Term.bytes [before] ≤ Term.bytes [after]
          ∧ Term.bytes [after] < Term.bytes [after]))
      ∧ Term.successor? [greatest] = none
      ∧ ([greatest] <+: ['z'] ↔ Term.bytes [greatest] ≤ Term.bytes ['z']) := by
  intro greatest before after
  have carried : Term.successor? ['a', greatest] = some ['b'] := by decide
  have jumped : Term.successor? [before] = some [after] := by decide
  have last : Term.successor? [greatest] = none := by decide
  exact ⟨⟨carried, (starting_exact _).1 _ carried _⟩, ⟨jumped, (starting_exact _).1 _ jumped _⟩, last,
    (starting_exact _).2.1 last _⟩

end Query

end Letterbox
