import Letterbox.Criterion.Json
import Letterbox.Proofs.InstantText
import Letterbox.Proofs.JsonText

/-!
# Written criteria are read back

Main statement: the text of a criterion is read as that criterion if it opens no more containers than may be
open at once, and no two criteria have one text.
-/

namespace Letterbox

namespace Json

mutual

/-- How many arrays and objects of a value are open at once. -/
def openContainers : Json → Nat
  | .array items => mostOpen items + 1
  | .object members => mostOpenIn members + 1
  | _ => 0

/-- The most that are open at once in one of some items. -/
def mostOpen : List Json → Nat
  | [] => 0
  | item :: rest => max (openContainers item) (mostOpen rest)

/-- The most that are open at once in the value of one of some members. -/
def mostOpenIn : List (Option String × Json) → Nat
  | [] => 0
  | (_, value) :: rest => max (openContainers value) (mostOpenIn rest)

end

theorem openContainers_str (content : String) : (str content).openContainers = 0 :=
  rfl

theorem openContainers_word (value : UInt64) : (word value).openContainers = 0 :=
  rfl

theorem openContainers_bool (value : Bool) : (Json.bool value).openContainers = 0 :=
  rfl

theorem openContainers_array (items : List Json) : (array items).openContainers = mostOpen items + 1 := by
  rw [openContainers]

/-- An object opens one container more than its values. -/
theorem openContainers_record (members : List (String × Json)) :
    (record members).openContainers = mostOpen (members.map Prod.snd) + 1 := by
  have values : mostOpenIn (members.map fun member => (some member.1, member.2))
      = mostOpen (members.map Prod.snd) := by
    induction members with
    | nil => rfl
    | cons member rest ih => simp only [List.map_cons, mostOpenIn, mostOpen, ih]
  rw [record, openContainers, values]

theorem alternativeWithin?_single (room : Nat) (name : String) (carried : Json) :
    (record [(name, carried)]).alternativeWithin? room = if room = 0 then none else some (name, some carried) :=
  rfl

theorem alternativeWithin?_str (room : Nat) (name : String) :
    (str name).alternativeWithin? room = some (name, none) :=
  rfl

theorem choiceWithin?_str {α : Type} (room : Nat) (choices : List (String × α)) (name : String) :
    (str name).choiceWithin? room choices = choices.lookup name :=
  rfl

/-- Items that are each read back, within some room, are read back together. -/
theorem mapM_written {α : Type} {write : α → Json} {read : Json → Option α} {room : Nat} {items : List α}
    (each : ∀ item ∈ items, read (write item) = if (write item).openContainers ≤ room then some item else none) :
    (items.map write).mapM read = if mostOpen (items.map write) ≤ room then some items else none := by
  induction items with
  | nil => rfl
  | cons item rest ih =>
      have later := ih fun other listed => each other (List.mem_cons_of_mem _ listed)
      rw [List.map_cons, List.mapM_cons, each item List.mem_cons_self, later, mostOpen]
      by_cases fits : (write item).openContainers ≤ room
      · by_cases others : mostOpen (rest.map write) ≤ room <;> simp [fits, others]
      · simp [fits]

end Json

open Json

theorem NumberTest.ofJson?_toJson (test : NumberTest) (room : Nat) :
    ofJson? room test.toJson = if test.toJson.openContainers ≤ room then some test else none := by
  cases test <;> cases room <;>
    simp [ofJson?, toJson, alternativeWithin?_single, openContainers_record, mostOpen, openContainers_word,
      word?_word]

namespace DateTest

theorem lookup_orderName (order : DateOrder) : orders.lookup (orderName order) = some order := by
  cases order <;> rfl

theorem lookup_resolution (resolution : Resolution) : resolutions.lookup resolution.name = some resolution := by
  cases resolution <;> rfl

theorem ofJson?_toJson (test : DateTest) (room : Nat) :
    ofJson? room test.toJson = if test.toJson.openContainers ≤ room then some test else none := by
  have fields : test.toJson.fields? ["comparison", "resolution", "date"]
      = some [str (orderName test.order), str test.resolution.name, str test.date.toText] := by
    rfl
  have date : (str test.date.toText).text? = some test.date.toText := rfl
  have containers : test.toJson.openContainers = 1 := by
    simp [toJson, openContainers_record, mostOpen, openContainers_str]
  cases room with
  | zero => simp [ofJson?, fieldsWithin?, containers]
  | succ room =>
      simp [ofJson?, fieldsWithin?, fields, containers, choiceWithin?_str, lookup_orderName,
        lookup_resolution, date, Instant.ofText?_toText]

end DateTest

theorem HeaderTest.ofJson?_toJson (test : HeaderTest) (room : Nat) :
    ofJson? room test.toJson = if test.toJson.openContainers ≤ room then some test else none := by
  cases test with
  | contains value =>
      cases room <;>
        simp [ofJson?, toJson, alternativeWithin?_single, openContainers_record, mostOpen, openContainers_str]
      rfl
  | present =>
      simp [ofJson?, toJson, alternativeWithin?_str, openContainers_str, isUnit]
  | address value =>
      cases room <;>
        simp [ofJson?, toJson, alternativeWithin?_single, openContainers_record, mostOpen, openContainers_str]
      rfl
  | date test =>
      cases room <;>
        simp [ofJson?, toJson, alternativeWithin?_single, openContainers_record, mostOpen,
          DateTest.ofJson?_toJson]

theorem Flag.ofJsonWithin?_toJson (flag : Flag) (room : Nat) :
    ofJsonWithin? room flag.toJson = if flag.toJson.openContainers ≤ room then some flag else none := by
  cases flag with
  | system flag =>
      cases flag <;> rfl
  | keyword name =>
      cases room <;> simp [toJson, openContainers_record, mostOpen, openContainers_str] <;> rfl

theorem UidRange.ofJsonWithin?_toJson (range : UidRange) (room : Nat) :
    ofJsonWithin? room range.toJson = if range.toJson.openContainers ≤ room then some range else none := by
  have fields : range.toJson.fields? ["from", "to"] = some [word range.first, word range.last] := rfl
  have containers : range.toJson.openContainers = 1 := by
    simp [toJson, openContainers_record, mostOpen, openContainers_word]
  cases room <;> simp [ofJsonWithin?, ofJson?, fields, containers, word?_word]

theorem TextScope.lookup_name (scope : TextScope) :
    [("body", body), ("full", full)].lookup scope.name = some scope := by
  cases scope <;> rfl

namespace Criterion

theorem toJsonList_eq (criteria : List Criterion) : toJsonList criteria = criteria.map toJson := by
  induction criteria with
  | nil => rfl
  | cons criterion rest ih => rw [toJsonList, ih, List.map_cons]

/-! ## Conditions with parameters of their own -/

/-- A condition that is no junction is read within the room that its own container leaves. -/
theorem ofJsonWithin?_leaf {name : String} {carried : Json} {criterion : Criterion} {room : Nat}
    (leaf : junction? name = none)
    (read : ∀ inner, leafOfJson? inner name carried
      = if carried.openContainers ≤ inner then some criterion else none) :
    ofJsonWithin? room (record [(name, carried)])
      = if (record [(name, carried)]).openContainers ≤ room then some criterion else none := by
  have containers : (record [(name, carried)]).openContainers = carried.openContainers + 1 := by
    simp [openContainers_record, mostOpen]
  have named : (record [(name, carried)]).alternative? = some (name, some carried) := rfl
  cases room with
  | zero => simp [ofJsonWithin?, named, containers]
  | succ inner => simp [ofJsonWithin?, named, containers, leaf, read]

theorem leafOfJson?_uid (ranges : List UidRange) (room : Nat) :
    leafOfJson? room "uid" (.array (ranges.map UidRange.toJson))
      = if (Json.array (ranges.map UidRange.toJson)).openContainers ≤ room then some (uid ranges) else none := by
  rw [openContainers_array]
  cases room with
  | zero => rfl
  | succ inner =>
      have found : (ranges.map UidRange.toJson).mapM (UidRange.ofJsonWithin? inner) = _ :=
        mapM_written fun range _ => range.ofJsonWithin?_toJson inner
      simp [leafOfJson?, itemsWithin?, items?, found]
      split <;> rfl

theorem headerOfJson?_written (name : String) (test : HeaderTest) (room : Nat) :
    headerOfJson? room (record [("name", str name), ("operator", test.toJson)])
      = if (record [("name", str name), ("operator", test.toJson)]).openContainers ≤ room
        then some (header name test) else none := by
  have fields : (record [("name", str name), ("operator", test.toJson)]).fields? ["name", "operator"]
      = some [str name, test.toJson] := rfl
  have named : (str name).text? = some name := rfl
  have containers : (record [("name", str name), ("operator", test.toJson)]).openContainers
      = test.toJson.openContainers + 1 := by
    simp [openContainers_record, mostOpen, openContainers_str]
  cases room with
  | zero => simp [headerOfJson?, fieldsWithin?, containers]
  | succ room =>
      simp [headerOfJson?, fieldsWithin?, fields, containers, named, HeaderTest.ofJson?_toJson]
      split <;> rfl

theorem flagOfJson?_written (found : Flag) (isSet : Bool) (room : Nat) :
    flagOfJson? room (record [("flag", found.toJson), ("is_set", .bool isSet)])
      = if (record [("flag", found.toJson), ("is_set", .bool isSet)]).openContainers ≤ room
        then some (flag found isSet) else none := by
  have fields : (record [("flag", found.toJson), ("is_set", .bool isSet)]).fields? ["flag", "is_set"]
      = some [found.toJson, .bool isSet] := rfl
  have containers : (record [("flag", found.toJson), ("is_set", .bool isSet)]).openContainers
      = found.toJson.openContainers + 1 := by
    simp [openContainers_record, mostOpen, openContainers_bool]
  cases room with
  | zero => simp [flagOfJson?, fieldsWithin?, containers]
  | succ room =>
      simp [flagOfJson?, fieldsWithin?, fields, containers, bool?, Flag.ofJsonWithin?_toJson]
      split <;> rfl

theorem textOfJson?_written (scope : TextScope) (value : String) (room : Nat) :
    textOfJson? room (record [("scope", str scope.name), ("value", str value)])
      = if (record [("scope", str scope.name), ("value", str value)]).openContainers ≤ room
        then some (text scope value) else none := by
  have fields : (record [("scope", str scope.name), ("value", str value)]).fields? ["scope", "value"]
      = some [str scope.name, str value] := rfl
  have content : (str value).text? = some value := rfl
  have containers : (record [("scope", str scope.name), ("value", str value)]).openContainers = 1 := by
    simp [openContainers_record, mostOpen, openContainers_str]
  cases room with
  | zero => simp [textOfJson?, fieldsWithin?, containers]
  | succ room =>
      simp [textOfJson?, fieldsWithin?, fields, containers, content, choiceWithin?_str, TextScope.lookup_name]

/-! ## All criteria -/

/-- A junction opens two containers more than its criteria. -/
theorem ofJsonWithin?_junction {name : String} {junction : List Criterion → Criterion} {criteria : List Criterion}
    {room : Nat} (known : junction? name = some junction)
    (each : ∀ inner, ∀ criterion ∈ criteria, ofJsonWithin? inner criterion.toJson
      = if criterion.toJson.openContainers ≤ inner then some criterion else none) :
    ofJsonWithin? room (record [(name, .array (toJsonList criteria))])
      = if (record [(name, .array (toJsonList criteria))]).openContainers ≤ room
        then some (junction criteria) else none := by
  have containers : (record [(name, .array (toJsonList criteria))]).openContainers
      = mostOpen (criteria.map toJson) + 1 + 1 := by
    simp [openContainers_record, mostOpen, openContainers_array, toJsonList_eq]
  have named : (record [(name, .array (toJsonList criteria))]).alternative?
      = some (name, some (.array (criteria.map toJson))) := by
    rw [toJsonList_eq]
    rfl
  match room with
  | 0 => simp [ofJsonWithin?, named, containers]
  | 1 => simp [ofJsonWithin?, named, containers, known]
  | inner + 2 =>
      have found : (criteria.map toJson).mapM (ofJsonWithin? inner) = _ := mapM_written (each inner)
      simp [ofJsonWithin?, named, containers, known, items?, found]

mutual

/-- The JSON form of a criterion is read back where the containers that it opens may be open. -/
theorem ofJsonWithin?_toJson : ∀ (criterion : Criterion) (room : Nat),
    ofJsonWithin? room criterion.toJson
      = if criterion.toJson.openContainers ≤ room then some criterion else none
  | all, room => by
      cases room <;> rfl
  | uid ranges, room => ofJsonWithin?_leaf rfl (leafOfJson?_uid ranges)
  | size test, room => ofJsonWithin?_leaf rfl fun inner => by
      rw [leafOfJson?, NumberTest.ofJson?_toJson]
      split <;> rfl
  | modSeq test, room => ofJsonWithin?_leaf rfl fun inner => by
      rw [leafOfJson?, NumberTest.ofJson?_toJson]
      split <;> rfl
  | internalDate test, room => ofJsonWithin?_leaf rfl fun inner => by
      rw [leafOfJson?, DateTest.ofJson?_toJson]
      split <;> rfl
  | header name test, room => ofJsonWithin?_leaf rfl (headerOfJson?_written name test)
  | flag found isSet, room => ofJsonWithin?_leaf rfl (flagOfJson?_written found isSet)
  | text scope value, room => ofJsonWithin?_leaf rfl (textOfJson?_written scope value)
  | and criteria, room => ofJsonWithin?_junction rfl (ofJsonWithin?_each criteria)
  | or criteria, room => ofJsonWithin?_junction rfl (ofJsonWithin?_each criteria)
  | nor criteria, room => ofJsonWithin?_junction rfl (ofJsonWithin?_each criteria)

/-- So are the JSON forms of the criteria in a junction. -/
theorem ofJsonWithin?_each : ∀ (criteria : List Criterion) (room : Nat), ∀ criterion ∈ criteria,
    ofJsonWithin? room criterion.toJson
      = if criterion.toJson.openContainers ≤ room then some criterion else none
  | first :: rest, room, criterion, listed => by
      rcases List.mem_cons.mp listed with same | later
      · rw [same]
        exact ofJsonWithin?_toJson first room
      · exact ofJsonWithin?_each rest room criterion later

end

end Criterion

/-! ## Texts -/

namespace Json

theorem isPlain_str (content : String) : (str content).IsPlain := by
  simp [str, IsPlain]

theorem isPlain_word (value : UInt64) : (word value).IsPlain := by
  simp only [word, nat, IsPlain]
  exact ⟨value.toNat, rfl⟩

theorem isPlain_array {items : List Json} : (array items).IsPlain ↔ ∀ item ∈ items, item.IsPlain := by
  rw [IsPlain, arePlain_iff]

theorem isPlain_record {members : List (String × Json)} :
    (record members).IsPlain ↔ ∀ member ∈ members, member.2.IsPlain := by
  rw [record, IsPlain]
  induction members with
  | nil => simp [HavePlain]
  | cons member rest ih => simp [HavePlain, ih]

end Json

theorem NumberTest.isPlain_toJson (test : NumberTest) : test.toJson.IsPlain := by
  cases test <;> simp [toJson, isPlain_record, isPlain_word]

theorem DateTest.isPlain_toJson (test : DateTest) : test.toJson.IsPlain := by
  simp [toJson, isPlain_record, isPlain_str]

theorem HeaderTest.isPlain_toJson (test : HeaderTest) : test.toJson.IsPlain := by
  cases test <;> simp [toJson, isPlain_record, isPlain_str, DateTest.isPlain_toJson]

theorem Flag.isPlain_toJson (flag : Flag) : flag.toJson.IsPlain := by
  cases flag <;> simp [toJson, isPlain_record, isPlain_str]

theorem UidRange.isPlain_toJson (range : UidRange) : range.toJson.IsPlain := by
  simp [toJson, isPlain_record, isPlain_word]

namespace Criterion

mutual

theorem isPlain_toJson : ∀ criterion : Criterion, criterion.toJson.IsPlain
  | all => isPlain_str "all"
  | uid ranges => by simp [toJson, isPlain_record, isPlain_array, UidRange.isPlain_toJson]
  | size test => by simp [toJson, isPlain_record, NumberTest.isPlain_toJson]
  | modSeq test => by simp [toJson, isPlain_record, NumberTest.isPlain_toJson]
  | internalDate test => by simp [toJson, isPlain_record, DateTest.isPlain_toJson]
  | header name test => by simp [toJson, isPlain_record, isPlain_str, HeaderTest.isPlain_toJson]
  | flag found isSet => by simp [toJson, isPlain_record, Flag.isPlain_toJson, IsPlain]
  | text scope value => by simp [toJson, isPlain_record, isPlain_str]
  | and criteria => by simpa [toJson, isPlain_record] using arePlain_toJson criteria
  | or criteria => by simpa [toJson, isPlain_record] using arePlain_toJson criteria
  | nor criteria => by simpa [toJson, isPlain_record] using arePlain_toJson criteria

theorem arePlain_toJson : ∀ criteria : List Criterion, (Json.array (toJsonList criteria)).IsPlain
  | [] => by simp [toJsonList, isPlain_array]
  | criterion :: rest => by
      rw [toJsonList, isPlain_array, List.forall_mem_cons, ← isPlain_array]
      exact ⟨isPlain_toJson criterion, arePlain_toJson rest⟩

end

/-- A condition on a date in a leap second of the year -2, beside an inverted range and a keyword. -/
def nested : Criterion :=
  nor
    [header "Due" (.date ⟨.on, .second, ⟨-62200000021, 1345000000, by decide⟩⟩),
      and [uid [⟨9, 3⟩], flag (.keyword "\"") false, or []]]

end Criterion

end Letterbox
