import Letterbox.Criterion
import Letterbox.Instant.Text
import Letterbox.Json.Reader
import Letterbox.Json.Writer

/-!
# Criteria as JSON

Each condition is an object with one member, named for the condition; a condition without parameters
is its bare name. Structures may also be given as the array of their fields. At most 127 containers
may be open at once, those that are skipped not counted.
-/

namespace Letterbox

/-- The number of containers that may be open at once. -/
def maxOpenContainers : Nat := 127

namespace Json

/-- The fields of a structure, if one more container may be opened. -/
def fieldsWithin? (room : Nat) (keys : List String) (value : Json) : Option (List Json) :=
  if room = 0 then none else value.fields? keys

/-- The alternative of a value, if one more container may be opened for what it carries. -/
def alternativeWithin? (room : Nat) (value : Json) : Option (String × Option Json) :=
  match value.alternative? with
  | some (name, none) => some (name, none)
  | some (name, some carried) => if room = 0 then none else some (name, some carried)
  | none => none

/-- The alternative of a plain enumeration, within the room for containers. -/
def choiceWithin? {α : Type} (room : Nat) (choices : List (String × α)) (value : Json) : Option α := do
  let (name, carried) ← value.alternativeWithin? room
  if isUnit carried then choices.lookup name else none

end Json

namespace NumberTest

/-- The JSON form. -/
def toJson : NumberTest → Json
  | equals value => Json.record [("equals", Json.word value)]
  | greaterThan value => Json.record [("greater_than", Json.word value)]
  | lessThan value => Json.record [("less_than", Json.word value)]

/-- The test with a JSON form. -/
def ofJson? (room : Nat) (value : Json) : Option NumberTest :=
  match value.alternativeWithin? room with
  | some ("equals", some carried) => carried.word?.map equals
  | some ("greater_than", some carried) => carried.word?.map greaterThan
  | some ("less_than", some carried) => carried.word?.map lessThan
  | _ => none

end NumberTest

namespace DateTest

/-- The names of the orders. -/
def orders : List (String × DateOrder) := [("on", .on), ("before", .before), ("after", .after)]

/-- The name of an order. -/
def orderName : DateOrder → String
  | .on => "on"
  | .before => "before"
  | .after => "after"

/-- The names of the units. -/
def resolutions : List (String × Resolution) :=
  Resolution.all.map fun resolution => (resolution.name, resolution)

/-- The JSON form. -/
def toJson (test : DateTest) : Json :=
  Json.record
    [("comparison", Json.str (orderName test.order)),
      ("resolution", Json.str test.resolution.name),
      ("date", Json.str test.date.toText)]

/-- The test with a JSON form. -/
def ofJson? (room : Nat) (value : Json) : Option DateTest := do
  match ← value.fieldsWithin? room ["comparison", "resolution", "date"] with
  | [order, resolution, date] =>
    some
      { order := ← order.choiceWithin? (room - 1) orders
        resolution := ← resolution.choiceWithin? (room - 1) resolutions
        date := ← Instant.ofText? (← date.text?) }
  | _ => none

end DateTest

namespace HeaderTest

/-- The JSON form. -/
def toJson : HeaderTest → Json
  | contains value => Json.record [("contains", Json.str value)]
  | present => Json.str "exists"
  | address value => Json.record [("address", Json.str value)]
  | date test => Json.record [("date", test.toJson)]

/-- The test with a JSON form. -/
def ofJson? (room : Nat) (value : Json) : Option HeaderTest :=
  match value.alternativeWithin? room with
  | some ("contains", some carried) => carried.text?.map contains
  | some ("exists", carried) => if Json.isUnit carried then some present else none
  | some ("address", some carried) => carried.text?.map address
  | some ("date", some carried) => (DateTest.ofJson? (room - 1) carried).map date
  | _ => none

end HeaderTest

/-- The name of a scope. -/
def TextScope.name : TextScope → String
  | .body => "body"
  | .full => "full"

/-- The flag with a JSON form, within the room for containers. -/
def Flag.ofJsonWithin? (room : Nat) (value : Json) : Option Flag := do
  let _ ← value.alternativeWithin? room
  Flag.ofJson? value

/-- The range with a JSON form, within the room for containers. -/
def UidRange.ofJsonWithin? (room : Nat) (value : Json) : Option UidRange :=
  if room = 0 then none else UidRange.ofJson? value

namespace Criterion

mutual

/-- The JSON form. -/
def toJson : Criterion → Json
  | all => Json.str "all"
  | uid ranges => Json.record [("uid", .array (ranges.map UidRange.toJson))]
  | size test => Json.record [("size", test.toJson)]
  | modSeq test => Json.record [("mod_seq", test.toJson)]
  | internalDate test => Json.record [("internal_date", test.toJson)]
  | header name test =>
    Json.record [("header", Json.record [("name", Json.str name), ("operator", test.toJson)])]
  | flag found isSet =>
    Json.record [("flag", Json.record [("flag", found.toJson), ("is_set", .bool isSet)])]
  | text scope value =>
    Json.record [("text", Json.record [("scope", Json.str scope.name), ("value", Json.str value)])]
  | and criteria => Json.record [("and", .array (toJsonList criteria))]
  | or criteria => Json.record [("or", .array (toJsonList criteria))]
  | nor criteria => Json.record [("nor", .array (toJsonList criteria))]

/-- The JSON forms of criteria. -/
def toJsonList : List Criterion → List Json
  | [] => []
  | criterion :: rest => toJson criterion :: toJsonList rest

end

/-- The header condition with the JSON form of its parameters. -/
def headerOfJson? (room : Nat) (value : Json) : Option Criterion := do
  match ← value.fieldsWithin? room ["name", "operator"] with
  | [name, test] => some (header (← name.text?) (← HeaderTest.ofJson? (room - 1) test))
  | _ => none

/-- The flag condition with the JSON form of its parameters. -/
def flagOfJson? (room : Nat) (value : Json) : Option Criterion := do
  match ← value.fieldsWithin? room ["flag", "is_set"] with
  | [found, isSet] => some (flag (← Flag.ofJsonWithin? (room - 1) found) (← isSet.bool?))
  | _ => none

/-- The text condition with the JSON form of its parameters. -/
def textOfJson? (room : Nat) (value : Json) : Option Criterion := do
  match ← value.fieldsWithin? room ["scope", "value"] with
  | [scope, value] =>
    some
      (text (← scope.choiceWithin? (room - 1) [("body", TextScope.body), ("full", TextScope.full)])
        (← value.text?))
  | _ => none

/-- The items of an array, if one more container may be opened. -/
def itemsWithin? (room : Nat) (value : Json) : Option (List Json) :=
  if room = 0 then none else value.items?

/-- The condition named `name`, other than a junction, that carries a value. -/
def leafOfJson? (room : Nat) (name : String) (carried : Json) : Option Criterion :=
  match name with
  | "all" => if Json.isUnit (some carried) then some all else none
  | "uid" => do
    some (uid (← (← itemsWithin? room carried).mapM (UidRange.ofJsonWithin? (room - 1))))
  | "size" => (NumberTest.ofJson? room carried).map size
  | "mod_seq" => (NumberTest.ofJson? room carried).map modSeq
  | "internal_date" => (DateTest.ofJson? room carried).map internalDate
  | "header" => headerOfJson? room carried
  | "flag" => flagOfJson? room carried
  | "text" => textOfJson? room carried
  | _ => none

/-- The junction with a name. -/
def junction? : String → Option (List Criterion → Criterion)
  | "and" => some and
  | "or" => some or
  | "nor" => some nor
  | _ => none

/-- The criterion with a JSON form, when `room` more containers may be opened. -/
def ofJsonWithin? : Nat → Json → Option Criterion
  | 0, value =>
    match value.alternative? with
    | some ("all", none) => some all
    | _ => none
  | room + 1, value =>
    match value.alternative? with
    | some ("all", none) => some all
    | some (name, some carried) =>
      match junction? name with
      | none => leafOfJson? room name carried
      | some junction =>
        match room with
        | 0 => none
        | inner + 1 =>
          match carried.items? with
          | none => none
          | some items => (items.mapM (ofJsonWithin? inner)).map junction
    | _ => none

/-- The text of a criterion. -/
def toText (criterion : Criterion) : String :=
  criterion.toJson.compact

/-- The criterion that a JSON text writes. -/
def ofText? (text : String) : Option Criterion := do
  ofJsonWithin? maxOpenContainers (← Json.ofString? text)

end Criterion

end Letterbox
