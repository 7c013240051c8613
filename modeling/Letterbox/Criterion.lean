import Letterbox.Failure

/-!
# Search criteria

What a search asks for: conditions on the fields of a message, joined by all-of, any-of and none-of.
-/

namespace Letterbox

/-- How a number is compared. -/
inductive NumberTest where
  | equals (value : UInt64)
  | greaterThan (value : UInt64)
  | lessThan (value : UInt64)
deriving DecidableEq, Repr

/-- How dates are compared. -/
inductive DateOrder where
  | on
  | before
  | after
deriving DecidableEq, Repr

/-- A comparison with a date, both sides cut to a unit. -/
structure DateTest where
  order : DateOrder
  resolution : Resolution
  date : Instant
deriving DecidableEq

/-- What is asked of a header. -/
inductive HeaderTest where
  | contains (value : String)
  | present
  | address (value : String)
  | date (test : DateTest)
deriving DecidableEq

/-- Where a text is looked for. -/
inductive TextScope where
  | body
  | full
deriving DecidableEq, Repr

/-- A condition on a message. -/
inductive Criterion where
  | all
  | uid (ranges : List UidRange)
  | size (test : NumberTest)
  | modSeq (test : NumberTest)
  | internalDate (test : DateTest)
  | header (name : String) (test : HeaderTest)
  | flag (flag : Flag) (isSet : Bool)
  | text (scope : TextScope) (value : String)
  | and (criteria : List Criterion)
  | or (criteria : List Criterion)
  | nor (criteria : List Criterion)

instance : Inhabited Criterion := ⟨.all⟩

/-- Whether a number passes a test. -/
def NumberTest.holds (value : UInt64) : NumberTest → Bool
  | equals other => value == other
  | greaterThan other => other < value
  | lessThan other => value < other

/-- Whether a cut date stands in an order to another. -/
def DateOrder.holds (first second : Int) : DateOrder → Bool
  | on => first == second
  | before => first < second
  | after => second < first

end Letterbox
