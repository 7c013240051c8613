import Letterbox.Json.Reader
import Letterbox.Json.Writer
import Letterbox.Proofs.DecimalText

/-!
# Written JSON is read back

A value is plain if its numbers are natural and no string of it has half of a surrogate pair. Main statement:
the compact text of a plain value is read as that value.
-/

namespace Letterbox.Json

mutual

/-- Whether all numbers of a value are natural, in decimal digits, and all its strings are strings. -/
def IsPlain : Json → Prop
  | .null | .bool _ => True
  | .number literal => ∃ value : Nat, literal = toString value
  | .text content => content.isSome = true
  | .array items => ArePlain items
  | .object members => HavePlain members

/-- Whether all items of an array are plain. -/
def ArePlain : List Json → Prop
  | [] => True
  | item :: rest => IsPlain item ∧ ArePlain rest

/-- Whether all keys and values of an object are plain. -/
def HavePlain : List (Option String × Json) → Prop
  | [] => True
  | (key, value) :: rest => key.isSome = true ∧ IsPlain value ∧ HavePlain rest

end

theorem arePlain_iff {items : List Json} : ArePlain items ↔ ∀ item ∈ items, item.IsPlain := by
  induction items with
  | nil => simp [ArePlain]
  | cons item rest ih => simp [ArePlain, ih]

/-! ## Strings -/

theorem hexUnit?_hexDigit {code : Nat} (control : code < 0x20) :
    hexUnit? '0' '0' (hexDigit (code / 16)) (hexDigit (code % 16)) = some code := by
  revert code
  decide

/-- No code below the surrogates is half of a pair. -/
theorem Unit16.ofCode_eq_letter {code : Nat} (control : code < 0x20) :
    Unit16.ofCode code = .letter (Char.ofNat code) := by
  rw [Unit16.ofCode, if_neg (by omega), if_neg (by omega)]

/-- A letter that needs no escape is read as itself. -/
theorem readUnits_letter {letter : Char} {rest after : List Char} {units : List Unit16}
    (quote : letter ≠ '"') (slash : letter ≠ '\\') (printed : 0x20 ≤ letter.toNat)
    (found : readUnits rest = some (units, after)) :
    readUnits (letter :: rest) = some (.letter letter :: units, after) := by
  rw [readUnits.eq_def]
  split <;> simp_all

/-- An escape of one letter is read as the letter it stands for. -/
theorem readUnits_escape {mark letter : Char} {rest after : List Char} {units : List Unit16}
    (known : escape? mark = some letter) (found : readUnits rest = some (units, after)) :
    readUnits ('\\' :: mark :: rest) = some (.letter letter :: units, after) := by
  have named : mark ≠ 'u' := by
    rintro rfl
    simp [escape?] at known
  rw [readUnits, known, found]
  · rfl
  · simp [named]

/-- The letters of a string are read back from their escapes. -/
theorem readUnits_escaped (letter : Char) {rest after : List Char} {units : List Unit16}
    (found : readUnits rest = some (units, after)) :
    readUnits (escaped letter ++ rest) = some (.letter letter :: units, after) := by
  unfold escaped
  split_ifs with quote slash back feed line carriage tab control
  · rw [eq_of_beq quote]
    exact readUnits_escape rfl found
  · rw [eq_of_beq slash]
    exact readUnits_escape rfl found
  · rw [eq_of_beq back]
    exact readUnits_escape rfl found
  · rw [eq_of_beq feed]
    exact readUnits_escape rfl found
  · rw [eq_of_beq line]
    exact readUnits_escape rfl found
  · rw [eq_of_beq carriage]
    exact readUnits_escape rfl found
  · rw [eq_of_beq tab]
    exact readUnits_escape rfl found
  · have code := hexUnit?_hexDigit control
    simp only [List.cons_append, List.nil_append, readUnits, code, found, Option.bind_eq_bind,
      Option.bind_some, Unit16.ofCode_eq_letter control, Char.ofNat_toNat]
  · exact readUnits_letter (by simpa using quote) (by simpa using slash) (by omega) found

theorem readUnits_flatMap (letters rest : List Char) :
    readUnits (letters.flatMap escaped ++ '"' :: rest) = some (letters.map .letter, rest) := by
  induction letters with
  | nil => rfl
  | cons letter letters ih =>
      rw [List.flatMap_cons, List.append_assoc, readUnits_escaped letter ih]
      rfl

theorem joinUnits_letters (letters : List Char) : joinUnits (letters.map .letter) = some letters := by
  induction letters with
  | nil => rfl
  | cons letter letters ih => simp [joinUnits, ih]

theorem quoted_append (content : String) (rest : List Char) :
    quoted (some content) ++ rest = '"' :: (content.toList.flatMap escaped ++ '"' :: rest) := by
  simp [quoted]

/-- A string literal after its opening quote is read as its string. -/
theorem readString_quoted (content : String) (rest : List Char) :
    readString (content.toList.flatMap escaped ++ '"' :: rest) = some (some content, rest) := by
  simp [readString, readUnits_flatMap, joinUnits_letters]

/-! ## Numbers -/

/-- A text that does not go on with a letter that a number could have. -/
def EndsNumber (rest : List Char) : Prop :=
  ∀ letter ∈ rest.head?, letter.isDigit = false ∧ letter ≠ '.' ∧ letter ≠ 'e' ∧ letter ≠ 'E'

theorem endsNumber_nil : EndsNumber [] := by
  simp [EndsNumber]

theorem EndsNumber.noDigitNext {rest : List Char} (ends : EndsNumber rest) : NoDigitNext rest :=
  fun letter first => (ends letter first).1

theorem readSomeDigits_append {digits rest : List Char} (nonempty : digits ≠ [])
    (all : ∀ letter ∈ digits, letter.isDigit = true) (next : NoDigitNext rest) :
    readSomeDigits (digits ++ rest) = some (digits, rest) := by
  rw [readSomeDigits, takeWhile_digits all next, dropWhile_digits all next]
  simp [nonempty]

theorem readWhole_decimal (value : Nat) {rest : List Char} (next : NoDigitNext rest) :
    readWhole (Nat.toDigits 10 value ++ rest) = some (Nat.toDigits 10 value, rest) := by
  rw [readWhole, readSomeDigits_append Nat.toDigits_ne_nil (fun _ => isDigit_of_mem_decimal) next]
  cases value with
  | zero => rfl
  | succ value => simp [head?_decimal_ne_zero (Nat.succ_pos value)]

theorem readFraction_of_ends {rest : List Char} (ends : EndsNumber rest) :
    readFraction rest = some ([], rest) := by
  unfold readFraction
  split
  · exact absurd rfl (ends '.' rfl).2.1
  · rfl

theorem readExponent_of_ends {rest : List Char} (ends : EndsNumber rest) :
    readExponent rest = some ([], rest) := by
  cases rest with
  | nil => rfl
  | cons letter later =>
      obtain ⟨-, -, small, capital⟩ := ends letter rfl
      simp [readExponent, small, capital]

theorem readUnsigned_decimal (value : Nat) {rest : List Char} (ends : EndsNumber rest) :
    readUnsigned (Nat.toDigits 10 value ++ rest) = some (Nat.toDigits 10 value, rest) := by
  rw [readUnsigned, readWhole_decimal value ends.noDigitNext]
  simp [readFraction_of_ends ends, readExponent_of_ends ends]

/-- The first digit of a number. -/
theorem exists_decimal_cons (value : Nat) :
    ∃ digit later, Nat.toDigits 10 value = digit :: later ∧ digit.isDigit = true := by
  obtain ⟨digit, later, split⟩ := List.exists_cons_of_ne_nil (Nat.toDigits_ne_nil : Nat.toDigits 10 value ≠ [])
  exact ⟨digit, later, split, isDigit_of_mem_decimal (split ▸ List.mem_cons_self)⟩

theorem readAtom_decimal (value : Nat) {rest : List Char} (ends : EndsNumber rest) :
    readAtom (Nat.toDigits 10 value ++ rest) = some (.number (toString value), rest) := by
  obtain ⟨digit, later, split, isDigit⟩ := exists_decimal_cons value
  have named : String.ofList (Nat.toDigits 10 value) = toString value := by
    rw [← toList_toString, String.ofList_toList]
  have unsigned : readNumber (Nat.toDigits 10 value ++ rest) = some (Nat.toDigits 10 value, rest) := by
    rw [← readUnsigned_decimal value ends, split]
    unfold readNumber
    split
    · simp_all
    · rfl
  have other : readAtom (Nat.toDigits 10 value ++ rest)
      = (readNumber (Nat.toDigits 10 value ++ rest)).map fun found =>
        (.number (String.ofList found.1), found.2) := by
    rw [split]
    unfold readAtom
    split
    · simp_all
    · simp_all
    · simp_all
    · rfl
  simp only [other, unsigned, Option.map_some, named]

/-! ## Values -/

/-- The marks behind the text of a value inside a container are no letters of a number. -/
theorem endsNumber_mark (mark : Char) (rest : List Char) (listed : mark = ',' ∨ mark = ']' ∨ mark = '}') :
    EndsNumber (mark :: rest) := by
  intro letter first
  obtain rfl : mark = letter := by simpa using first
  rcases listed with rfl | rfl | rfl <;> decide

theorem isSpace_of_isDigit {letter : Char} (isDigit : letter.isDigit = true) : isSpace letter = false := by
  simp only [isSpace, Bool.or_eq_false_iff, beq_eq_false_iff_ne]
  refine ⟨⟨⟨?_, ?_⟩, ?_⟩, ?_⟩ <;> rintro rfl <;> contradiction

/-- How the text of a plain value starts: with no blank, and with no closing bracket. -/
theorem exists_write_cons {value : Json} (plain : value.IsPlain) :
    ∃ first later, value.write = first :: later ∧ isSpace first = false ∧ first ≠ ']' := by
  cases value with
  | null => exact ⟨_, _, rfl, by decide, by decide⟩
  | bool value => cases value <;> exact ⟨_, _, rfl, by decide, by decide⟩
  | number literal =>
      obtain ⟨value, rfl⟩ : ∃ value : Nat, literal = toString value := by simpa [IsPlain] using plain
      obtain ⟨digit, later, split, isDigit⟩ := exists_decimal_cons value
      refine ⟨digit, later, by rw [write, toList_toString, split], isSpace_of_isDigit isDigit, ?_⟩
      rintro rfl
      contradiction
  | text content => exact ⟨_, _, rfl, by decide, by decide⟩
  | array items => exact ⟨_, _, rfl, by decide, by decide⟩
  | object members => exact ⟨_, _, rfl, by decide, by decide⟩

theorem skipSpace_cons {first : Char} {later : List Char} (dark : isSpace first = false) :
    skipSpace (first :: later) = first :: later := by
  simp [skipSpace, dark]

theorem readValue_number (fuel value : Nat) {rest : List Char} (ends : EndsNumber rest) :
    readValue (fuel + 1) (Nat.toDigits 10 value ++ rest) = some (.number (toString value), rest) := by
  rw [← readAtom_decimal value ends]
  obtain ⟨digit, later, split, isDigit⟩ := exists_decimal_cons value
  rw [split, List.cons_append, readValue, skipSpace_cons (isSpace_of_isDigit isDigit)]
  split
  · simp_all
  · simp_all
  · simp_all
  · rfl

/-- An array whose text goes on with no closing bracket is read item by item. -/
theorem readValue_array {fuel : Nat} {first : Char} {later : List Char} (dark : isSpace first = false)
    (other : first ≠ ']') :
    readValue (fuel + 1) ('[' :: first :: later)
      = (readItems fuel (first :: later)).map fun (items, after) => (.array items, after) := by
  rw [readValue, skipSpace_cons (by decide)]
  simp only [skipSpace_cons dark]
  split
  · simp_all
  · rfl

/-- An object whose text goes on with a key is read member by member. -/
theorem readValue_object (fuel : Nat) (later : List Char) :
    readValue (fuel + 1) ('{' :: '"' :: later)
      = (readMembers fuel ('"' :: later)).map fun (members, after) => (.object members, after) := by
  rw [readValue, skipSpace_cons (by decide)]
  rfl

theorem separated_cons_cons (mark : Char) (text next : List Char) (texts : List (List Char)) :
    separated [mark] (text :: next :: texts) = text ++ mark :: separated [mark] (next :: texts) := by
  simp [separated]

theorem separated_singleton (mark : Char) (text : List Char) : separated [mark] [text] = text := by
  simp [separated]

/-- Separated texts start as the first of them. -/
theorem exists_separated_cons (mark : Char) (text : List Char) (texts : List (List Char)) :
    ∃ tail, separated [mark] (text :: texts) = text ++ tail := by
  cases texts with
  | nil => exact ⟨[], by rw [separated_singleton, List.append_nil]⟩
  | cons next texts => exact ⟨_, separated_cons_cons mark text next texts⟩

/-- The members of an object from one that was read: others come behind a comma. -/
def readMembersFrom (fuel : Nat) (member : Option String × Json) (rest : List Char) :
    Option (List (Option String × Json) × List Char) :=
  match skipSpace rest with
  | ',' :: more => (readMembers fuel more).map fun (members, after) => (member :: members, after)
  | '}' :: after => some ([member], after)
  | _ => none

/-- The first member of an object is read up to the mark behind its value. -/
theorem readMembers_cons {fuel : Nat} (content : String) {value : Json} {rest : List Char}
    (found : readValue fuel (value.write ++ rest) = some (value, rest)) :
    readMembers (fuel + 1) (quoted (some content) ++ ':' :: (value.write ++ rest))
      = readMembersFrom fuel (some content, value) rest := by
  rw [quoted_append, readMembers, skipSpace_cons (by decide)]
  simp only [readString_quoted, skipSpace_cons (show isSpace ':' = false by decide), found]
  rfl

mutual

/-- The text of a plain value is read as the value. -/
theorem readValue_write : ∀ (value : Json) (fuel : Nat) (rest : List Char), value.IsPlain → EndsNumber rest →
    2 * value.write.length ≤ fuel → readValue fuel (value.write ++ rest) = some (value, rest)
  | value, 0, rest, plain, _, enough => by
      obtain ⟨first, later, split, -⟩ := exists_write_cons plain
      simp [split] at enough
  | .null, fuel + 1, rest, _, _, _ => rfl
  | .bool true, fuel + 1, rest, _, _, _ => rfl
  | .bool false, fuel + 1, rest, _, _, _ => rfl
  | .number literal, fuel + 1, rest, plain, ends, _ => by
      obtain ⟨value, rfl⟩ : ∃ value : Nat, literal = toString value := by simpa [IsPlain] using plain
      rw [write, toList_toString, readValue_number fuel value ends]
  | .text content, fuel + 1, rest, plain, _, _ => by
      obtain ⟨content, rfl⟩ := Option.isSome_iff_exists.mp plain
      rw [write, quoted_append, readValue, skipSpace_cons (by decide)]
      simp only [readString_quoted, Option.map_some]
  | .array [], fuel + 1, rest, _, _, _ => rfl
  | .array (item :: items), fuel + 1, rest, plain, _, enough => by
      obtain ⟨first, later, split, dark, other⟩ := exists_write_cons plain.1
      obtain ⟨tail, joined⟩ := exists_separated_cons ',' item.write (writeItems items)
      have found := readItems_write (item :: items) fuel rest plain (by simp)
        (by simp only [write, List.length_cons, List.length_append, List.length_nil] at enough; omega)
      rw [writeItems, joined, split, List.append_assoc, List.cons_append] at found
      rw [write, writeItems, joined, split, List.cons_append, List.append_assoc, List.append_assoc,
        List.cons_append, readValue_array dark other]
      simp only [List.cons_append, List.nil_append, found, Option.map_some]
  | .object [], fuel + 1, rest, _, _, _ => rfl
  | .object ((key, value) :: members), fuel + 1, rest, plain, _, enough => by
      obtain ⟨tail, joined⟩ :=
        exists_separated_cons ',' (quoted key ++ ':' :: value.write) (writeMembers members)
      have found := readMembers_write ((key, value) :: members) fuel rest plain (by simp)
        (by simp only [write, List.length_cons, List.length_append, List.length_nil] at enough; omega)
      rw [writeMembers, joined, quoted, List.append_assoc, List.append_assoc, List.cons_append] at found
      rw [write, writeMembers, joined, quoted, List.cons_append, List.append_assoc, List.append_assoc,
        List.append_assoc, List.cons_append, readValue_object]
      simp only [List.append_assoc, List.cons_append, List.nil_append] at found ⊢
      simp only [found, Option.map_some]

/-- The texts of plain items are read as the items, up to the closing bracket. -/
theorem readItems_write : ∀ (items : List Json) (fuel : Nat) (rest : List Char), ArePlain items → items ≠ [] →
    2 * (separated [','] (writeItems items)).length < fuel →
    readItems fuel (separated [','] (writeItems items) ++ ']' :: rest) = some (items, rest)
  | _, 0, _, _, _, enough => absurd enough (by omega)
  | [], _, _, _, nonempty, _ => absurd rfl nonempty
  | [item], fuel + 1, rest, plain, _, enough => by
      rw [writeItems, writeItems, separated_singleton] at enough ⊢
      have found := readValue_write item fuel (']' :: rest) plain.1 (endsNumber_mark ']' rest (by simp))
        (by omega)
      rw [readItems, found]
      rfl
  | item :: next :: items, fuel + 1, rest, plain, _, enough => by
      rw [writeItems, writeItems, separated_cons_cons] at enough ⊢
      rw [List.length_append, List.length_cons] at enough
      have found := readItems_write (next :: items) fuel rest plain.2 (by simp)
        (by rw [writeItems]; omega)
      rw [List.append_assoc, List.cons_append, readItems, readValue_write item fuel _ plain.1
        (endsNumber_mark ',' _ (by simp)) (by omega)]
      simp only [skipSpace_cons (show isSpace ',' = false by decide)]
      rw [← writeItems, found]
      rfl

/-- The texts of plain members are read as the members, up to the closing brace. -/
theorem readMembers_write : ∀ (members : List (Option String × Json)) (fuel : Nat) (rest : List Char),
    HavePlain members → members ≠ [] →
    2 * (separated [','] (writeMembers members)).length < fuel →
    readMembers fuel (separated [','] (writeMembers members) ++ '}' :: rest) = some (members, rest)
  | _, 0, _, _, _, enough => absurd enough (by omega)
  | [], _, _, _, nonempty, _ => absurd rfl nonempty
  | [(key, value)], fuel + 1, rest, plain, _, enough => by
      obtain ⟨content, rfl⟩ := Option.isSome_iff_exists.mp plain.1
      rw [writeMembers, writeMembers, separated_singleton] at enough ⊢
      rw [List.length_append, List.length_cons] at enough
      have found := readValue_write value fuel ('}' :: rest) plain.2.1 (endsNumber_mark '}' rest (by simp))
        (by omega)
      rw [List.append_assoc, List.cons_append, readMembers_cons content found]
      rfl
  | (key, value) :: next :: members, fuel + 1, rest, plain, _, enough => by
      obtain ⟨content, rfl⟩ := Option.isSome_iff_exists.mp plain.1
      rw [writeMembers, writeMembers, separated_cons_cons] at enough ⊢
      rw [List.length_append, List.length_append, List.length_cons, List.length_cons] at enough
      have more := readMembers_write (next :: members) fuel rest plain.2.2 (by simp)
        (by rw [writeMembers]; omega)
      rw [writeMembers] at more
      have found := readValue_write value fuel
        (',' :: (separated [','] ((quoted next.1 ++ ':' :: next.2.write) :: writeMembers members) ++ '}' :: rest))
        plain.2.1 (endsNumber_mark ',' _ (by simp)) (by omega)
      rw [List.append_assoc, List.append_assoc, List.cons_append, List.cons_append,
        readMembers_cons content found, readMembersFrom, skipSpace_cons (by decide)]
      simp only [more, Option.map_some]

end

/-- The compact text of a plain value writes that value. -/
theorem ofString?_compact {value : Json} (plain : value.IsPlain) :
    ofString? value.compact = some value := by
  have found := readValue_write value (2 * value.write.length + 2) [] plain endsNumber_nil (by omega)
  rw [List.append_nil] at found
  simp [ofString?, compact, read, found, skipSpace]

end Letterbox.Json
