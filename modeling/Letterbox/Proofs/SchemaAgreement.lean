import Letterbox.Proofs.Reopening

/-!
# Schemas that agree with the documents

An index that was found is used if its schema gives the fields of the documents their names and numbers. Main
statement: the check names the first field that is missing or misplaced. It would name the first that is missing,
misplaced or of another kind exactly if no field that is only of another kind comes before.
-/

namespace Letterbox

namespace Schema

variable {schema : Schema} {number : Nat} {entry : FieldEntry} {name : String}

/-- The number of the field with a name. -/
def numberOf? (schema : Schema) (name : String) : Option Nat :=
  schema.findIdx? (·.name == name)

/-- No two fields have one name. -/
def NamesApart (schema : Schema) : Prop :=
  (schema.map (·.name)).Nodup

/-- A schema has a field of the documents under its name, at its number. -/
def HasPlace (schema : Schema) (number : Nat) (entry : FieldEntry) : Prop :=
  schema.numberOf? entry.name = some number

/-- A schema has a field of the documents under its name, at its number and with its kind of values. -/
structure HasField (schema : Schema) (number : Nat) (entry : FieldEntry) : Prop where
  place : schema.HasPlace number entry
  type : (schema[number]?).map (·.type) = some entry.type

/-- A verdict on the fields of the documents accepts if all are right, and else names the first that is not. -/
def IsVerdict (right : Nat → FieldEntry → Prop) : Except Failure Unit → Prop
  | .ok () => ∀ number entry, messages[number]? = some entry → right number entry
  | .error failure => ∃ number entry, messages[number]? = some entry ∧ ¬ right number entry
      ∧ (∀ earlier < number, ∀ other, messages[earlier]? = some other → right earlier other)
      ∧ failure = .incompatible entry.name

/-! ## Fields by name and by number -/

theorem numberOf?_eq_some_iff (apart : schema.NamesApart) :
    schema.numberOf? name = some number ↔ (schema[number]?).map (·.name) = some name := by
  rw [numberOf?, List.findIdx?_eq_some_iff_getElem]
  constructor
  · rintro ⟨inside, found, -⟩
    rw [List.getElem?_eq_getElem inside, Option.map_some, eq_of_beq found]
  · intro named
    obtain ⟨entry, found, same⟩ := Option.map_eq_some_iff.mp named
    obtain ⟨inside, rfl⟩ := List.getElem?_eq_some_iff.mp found
    refine ⟨inside, beq_iff_eq.mpr same, fun earlier before again => ?_⟩
    -- an earlier field of this name would be the second of its name
    have other := List.nodup_iff_getElem?_ne_getElem?.mp apart earlier number before (by simpa using inside)
    rw [List.getElem?_map, List.getElem?_map, List.getElem?_eq_getElem (before.trans inside),
      List.getElem?_eq_getElem inside, Option.map_some, Option.map_some, eq_of_beq again, same] at other
    exact other rfl

theorem hasPlace_iff (apart : schema.NamesApart) :
    schema.HasPlace number entry ↔ (schema[number]?).map (·.name) = some entry.name :=
  numberOf?_eq_some_iff apart

theorem hasPlace_iff_places (apart : schema.NamesApart) :
    schema.HasPlace number entry ↔ schema.places (entry, number) = true := by
  rw [hasPlace_iff apart, places, beq_iff_eq]

/-- A field that has its name, its number and its kind of values is there as it is declared. -/
theorem hasField_iff (apart : schema.NamesApart) : schema.HasField number entry ↔ schema[number]? = some entry := by
  constructor
  · rintro ⟨place, type⟩
    rw [hasPlace_iff apart] at place
    obtain ⟨found, listed, named⟩ := Option.map_eq_some_iff.mp place
    rw [listed, Option.map_some, Option.some.injEq] at type
    cases found
    obtain rfl : _ = entry.name := named
    obtain rfl : _ = entry.type := type
    exact listed
  · intro listed
    refine ⟨(hasPlace_iff apart).mpr ?_, ?_⟩ <;> rw [listed, Option.map_some]

theorem namesApart_messages : messages.NamesApart := by
  unfold NamesApart
  decide

/-- The fields of the documents are told apart by their names. -/
theorem messages_name_inj {place : Nat} {other : FieldEntry} (one : messages[number]? = some entry)
    (two : messages[place]? = some other) (same : entry.name = other.name) : number = place := by
  have first := (numberOf?_eq_some_iff namesApart_messages).mpr (congrArg (Option.map (·.name)) one)
  have second := (numberOf?_eq_some_iff namesApart_messages).mpr (congrArg (Option.map (·.name)) two)
  exact Option.some.inj (first.symm.trans ((congrArg _ same).trans second))

/-! ## Verdicts -/

namespace IsVerdict

variable {right stricter : Nat → FieldEntry → Prop} {result other : Except Failure Unit}

/-- There is one verdict. -/
theorem unique (one : IsVerdict right result) (two : IsVerdict right other) : result = other := by
  match result, other with
  | .ok (), .ok () => rfl
  | .ok (), .error _ =>
      obtain ⟨number, entry, listed, wrong, -⟩ := two
      exact absurd (one number entry listed) wrong
  | .error _, .ok () =>
      obtain ⟨number, entry, listed, wrong, -⟩ := one
      exact absurd (two number entry listed) wrong
  | .error _, .error _ =>
      obtain ⟨number, entry, listed, wrong, before, rfl⟩ := one
      obtain ⟨place, found, there, false, clear, rfl⟩ := two
      rcases Nat.lt_trichotomy number place with less | rfl | more
      · exact absurd (clear number less entry listed) wrong
      · rw [Option.some.inj (listed.symm.trans there)]
      · exact absurd (before place more found there) false

/-- A verdict is that of a stricter rule exactly if the first field that breaks the stricter rule breaks both. -/
theorem stricter_iff (implies : ∀ number entry, stricter number entry → right number entry)
    (verdict : IsVerdict right result) :
    IsVerdict stricter result
      ↔ ∀ number entry, messages[number]? = some entry →
          (∀ earlier < number, ∀ other, messages[earlier]? = some other → stricter earlier other) →
          right number entry → stricter number entry := by
  match result with
  | .ok () =>
      refine ⟨fun strict number entry listed _ _ => strict number entry listed, fun first => ?_⟩
      intro number
      -- all fields before one are as the stricter rule wants them
      induction number using Nat.strong_induction_on with
      | _ number ih =>
          intro entry listed
          exact first number entry listed ih (verdict number entry listed)
  | .error failure =>
      obtain ⟨number, entry, listed, wrong, before, rfl⟩ := verdict
      constructor
      · rintro ⟨place, found, there, broken, clear, same⟩ later other later_listed early holds
        obtain rfl := messages_name_inj listed there (Failure.incompatible.inj same)
        rcases Nat.lt_trichotomy later number with less | rfl | more
        · exact clear later less other later_listed
        · obtain rfl := Option.some.inj (listed.symm.trans later_listed)
          exact absurd holds wrong
        · exact absurd (early number more found there) broken
      · intro first
        refine ⟨number, entry, listed, fun holds => wrong (implies number entry holds), ?_, rfl⟩
        intro earlier
        induction earlier using Nat.strong_induction_on with
        | _ earlier ih =>
            intro less other found
            exact first earlier other found (fun one least => ih one least (least.trans less))
              (before earlier less other found)

end IsVerdict

/-! ## The check -/

/-- The check names the first field that is missing or misplaced. -/
theorem isVerdict_ensureCompatible (apart : schema.NamesApart) :
    IsVerdict schema.HasPlace schema.ensureCompatible := by
  unfold ensureCompatible
  split
  · next entry number found =>
    obtain ⟨wrong, place, inside, same, before⟩ := List.find?_eq_some_iff_getElem.mp found
    rw [List.getElem_zipIdx, Nat.zero_add, Prod.mk.injEq] at same
    obtain ⟨rfl, rfl⟩ := same
    rw [List.length_zipIdx] at inside
    refine ⟨place, messages[place], List.getElem?_eq_getElem inside, ?_, ?_, rfl⟩
    · rw [hasPlace_iff_places apart]
      simpa using wrong
    · intro earlier less other listed
      obtain ⟨within, rfl⟩ := List.getElem?_eq_some_iff.mp listed
      rw [hasPlace_iff_places apart]
      simpa using before earlier less
  · next none =>
    intro number entry listed
    have member : (entry, number) ∈ messages.zipIdx := List.mem_zipIdx_iff_getElem?.mpr listed
    rw [hasPlace_iff_places apart]
    simpa using List.find?_eq_none.mp none _ member

/-- All fields of the documents are right by name and number if their names start those of the schema. -/
theorem hasPlace_all_iff (apart : schema.NamesApart) :
    (∀ number entry, messages[number]? = some entry → schema.HasPlace number entry)
      ↔ messages.map (·.name) <+: schema.map (·.name) := by
  rw [List.prefix_iff_getElem?]
  constructor
  · intro right number inside
    rw [List.length_map] at inside
    have place := (hasPlace_iff apart).mp (right number _ (List.getElem?_eq_getElem inside))
    rw [List.getElem?_map, place, List.getElem_map]
  · intro start number entry listed
    obtain ⟨inside, rfl⟩ := List.getElem?_eq_some_iff.mp listed
    have named := start number (by rwa [List.length_map])
    rw [List.getElem?_map, List.getElem_map] at named
    exact (hasPlace_iff apart).mpr named

theorem hasField_all_iff (apart : schema.NamesApart) :
    (∀ number entry, messages[number]? = some entry → schema.HasField number entry) ↔ messages <+: schema := by
  rw [List.prefix_iff_getElem?]
  constructor
  · intro right number inside
    exact (hasField_iff apart).mp (right number _ (List.getElem?_eq_getElem inside))
  · intro start number entry listed
    obtain ⟨inside, rfl⟩ := List.getElem?_eq_some_iff.mp listed
    exact (hasField_iff apart).mpr (start number inside)

/-- The check accepts a schema whose names start with those of the documents' fields. -/
theorem ensureCompatible_eq_ok_iff (apart : schema.NamesApart) :
    schema.ensureCompatible = .ok () ↔ messages.map (·.name) <+: schema.map (·.name) := by
  have verdict := isVerdict_ensureCompatible apart
  rw [← hasPlace_all_iff apart]
  constructor
  · intro accepted
    rwa [accepted] at verdict
  · intro right
    exact verdict.unique right

/-- The check fails because of the index, and its message names a field of the documents. -/
theorem ensureCompatible_error {failure : Failure} (failed : schema.ensureCompatible = .error failure) :
    failure.code = .indexUnavailable ∧ ∃ entry ∈ messages, failure.message
      = "Existing index is incompatible: field '" ++ entry.name ++ "' is missing or misplaced" := by
  unfold ensureCompatible at failed
  split at failed
  · next entry number found =>
    obtain rfl := Except.error.inj failed
    have member := List.mem_of_find?_eq_some found
    exact ⟨rfl, entry, List.fst_mem_of_mem_zipIdx member, rfl⟩
  · cases failed

/--
The check accepts a schema whose names start with those of the documents' fields, and else names the first field that
is missing or misplaced. It is the verdict on kinds of values as well exactly if a field that is there but of another
kind never comes first; what stands behind the fields of the documents does not matter to either.
-/
theorem ensureCompatible_verdict (apart : schema.NamesApart) :
    IsVerdict schema.HasPlace schema.ensureCompatible
      ∧ (schema.ensureCompatible = .ok () ↔ messages.map (·.name) <+: schema.map (·.name))
      ∧ (IsVerdict schema.HasField schema.ensureCompatible
          ↔ ∀ number entry, messages[number]? = some entry →
              (∀ earlier < number, ∀ other, messages[earlier]? = some other → schema.HasField earlier other) →
              schema.HasPlace number entry → schema.HasField number entry)
      ∧ (IsVerdict schema.HasField (.ok ()) ↔ messages <+: schema)
      ∧ ∀ failure, schema.ensureCompatible = .error failure → failure.code = .indexUnavailable
          ∧ ∃ entry ∈ messages, failure.message
            = "Existing index is incompatible: field '" ++ entry.name ++ "' is missing or misplaced" := by
  have verdict := isVerdict_ensureCompatible apart
  exact ⟨verdict, ensureCompatible_eq_ok_iff apart, verdict.stricter_iff fun _ _ => HasField.place,
    hasField_all_iff apart, fun _ => ensureCompatible_error⟩

/-- The fields of the documents with two numbers swapped, and one more field. -/
def swapped : Schema :=
  messages.take 3 ++ [⟨"mod_seq", .word⟩, ⟨"uid", .word⟩] ++ messages.drop 5 ++ [⟨"subject", .text⟩]

/-- Of two fields that are swapped the first one is named. -/
theorem ensureCompatible_verdict_swapped :
    swapped.NamesApart ∧ swapped.ensureCompatible = .error (.incompatible "uid")
      ∧ IsVerdict swapped.HasField (.error (.incompatible "uid")) := by
  have apart : swapped.NamesApart := by
    unfold NamesApart
    decide
  have checked : swapped.ensureCompatible = .error (.incompatible "uid") := by rfl
  obtain ⟨-, -, verdict, -⟩ := ensureCompatible_verdict apart
  rw [checked] at verdict
  refine ⟨apart, checked, verdict.mpr fun number entry listed _ place => ?_⟩
  have kept : ∀ number < messages.length, (swapped[number]?).map (·.name) = (messages[number]?).map (·.name) →
      swapped[number]? = messages[number]? := by
    decide
  rw [hasPlace_iff apart] at place
  rw [hasField_iff apart, ← listed]
  exact kept number (List.getElem?_eq_some_iff.mp listed).1 (by rw [place, listed, Option.map_some])

/-- The fields of the documents, every one a text. -/
def retyped : Schema :=
  messages.map fun entry => ⟨entry.name, .text⟩

/-- Numbers that are kept as texts pass the check, although the field of the message numbers should be named. -/
theorem ensureCompatible_accepts_retyped :
    retyped.NamesApart ∧ retyped.ensureCompatible = .ok ()
      ∧ IsVerdict retyped.HasField (.error (.incompatible "uid")) ∧ ¬ IsVerdict retyped.HasField (.ok ()) := by
  have apart : retyped.NamesApart := by
    unfold NamesApart
    decide
  have named : IsVerdict retyped.HasField (.error (.incompatible "uid")) := by
    refine ⟨3, ⟨"uid", .word⟩, rfl, fun holds => ?_, fun earlier before other listed => ?_, rfl⟩
    · exact absurd ((hasField_iff apart).mp holds) (by decide)
    · have kept : ∀ earlier < 3, retyped[earlier]? = messages[earlier]? := by decide
      rw [hasField_iff apart, kept earlier before, listed]
  exact ⟨apart, rfl, named, fun accepted => nomatch accepted.unique named⟩

end Schema

/-! ## Indexes that were opened -/

/-- What rested in the directory of an opened index had its names from the fields of the documents. -/
theorem Disk.names_of_openIndex {disk last : Disk} {config : Config} {decoder : Mime.Decoder} {opened : OpenIndex}
    {directory : String} (own : config.directory = some directory)
    (done : disk.openIndex config decoder = (last, .ok opened)) :
    ∃ place, opened.place = some place
      ∧ ∀ stored, disk.stored.lookup place = some stored → stored.schema.NamesApart →
          Schema.messages.map (·.name) <+: stored.schema.map (·.name) := by
  obtain ⟨-, made, place, entries, reached, found, -, rfl⟩ := openIndex_ok own done
  refine ⟨place, rfl, fun stored there apart => ?_⟩
  rw [← (makeDirectory_ok reached).2] at there
  rw [entriesAt, there] at found
  rw [← Schema.ensureCompatible_eq_ok_iff apart]
  cases checked : stored.schema.ensureCompatible with
  | ok accepted => rfl
  | error failure => simp [checked] at found

end Letterbox
