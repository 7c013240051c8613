import Letterbox.Criterion
import Letterbox.Text.Blank

/-!
# Valid criteria

A criterion can be answered if no header is compared with a date, every header has a name, and the
ends of every range are in order. The first offending condition, from left to right, is reported.
-/

namespace Letterbox

/-- What is wrong with a header condition; a comparison with a date comes before a missing name. -/
def HeaderTest.check (name : String) : HeaderTest → Except Failure Unit
  | .date _ => .error (.headerDate name)
  | _ => if (Text.trim name.toList).isEmpty then .error .headerNameMissing else .ok ()

/-- The first range whose ends are out of order is wrong. -/
def UidRange.checkAll (ranges : List UidRange) : Except Failure Unit :=
  match ranges.find? (! ·.isOrdered) with
  | some range => .error (.unorderedRange range)
  | none => .ok ()

mutual

/-- Refuses a criterion that cannot be answered, with the first offence. -/
def Criterion.validate : Criterion → Except Failure Unit
  | .header name test => test.check name
  | .uid ranges => UidRange.checkAll ranges
  | .and criteria | .or criteria | .nor criteria => Criterion.validateAll criteria
  | _ => .ok ()

/-- Refuses the first of several criteria that cannot be answered. -/
def Criterion.validateAll : List Criterion → Except Failure Unit
  | [] => .ok ()
  | criterion :: rest =>
    match criterion.validate with
    | .error failure => .error failure
    | .ok () => validateAll rest

end

end Letterbox
