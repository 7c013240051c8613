import Letterbox.Text.Width

/-!
# Rules between rows

A rule is the line between two rows of a table. It has a joint where a line between two columns meets it
from above or from below, and a gap where a cell goes on into the next row.
-/

namespace Letterbox.Html

/-- A place on a rule: whether lines meet it from above and from below. The last kind stands between
cells that are written below each other. -/
inductive Joint where
  | straight
  | above
  | below
  | cross
  | slant
deriving DecidableEq, Repr

namespace Joint

/-- The character of a place on a rule, by whether the rule goes on to the left and to the right. -/
def letter (left right : Bool) : Joint → Char
  | straight => '─'
  | above => if left && right then '┴' else if left then '┘' else if right then '└' else '│'
  | below => if left && right then '┬' else if left then '┐' else if right then '┌' else '│'
  | cross => if left && right then '┼' else if left then '┤' else if right then '├' else '│'
  | slant => '/'

/-- The place where a line meets it from above as well. -/
def withAbove : Joint → Joint
  | straight | above => above
  | below | cross => cross
  | slant => slant

/-- The place where a line meets it from below as well. -/
def withBelow : Joint → Joint
  | straight | below => below
  | above | cross => cross
  | slant => slant

/-- Whether a line meets the place. -/
def isMet : Joint → Bool
  | straight | slant => false
  | above | below | cross => true

/-- What stands over the place as far as the line that meets it from above goes. -/
def upper : Joint → Char
  | straight | below => ' '
  | above | cross => '│'
  | slant => '|'

end Joint

/-- A gap in a rule: a line of the cell that goes on there. -/
structure Gap where
  start : Nat
  width : Nat
  letters : List Char
deriving DecidableEq, Repr

/-- A rule, place by place, with gaps in it from left to right. -/
structure Rule where
  joints : List Joint
  gaps : List Gap
deriving DecidableEq, Repr

namespace Rule

/-- A straight rule. -/
def ofWidth (width : Nat) : Rule := ⟨List.replicate width .straight, []⟩

/-- The rule, straight on up to a width. -/
def stretch (width : Nat) (rule : Rule) : Rule :=
  { rule with joints := rule.joints ++ List.replicate (width - rule.joints.length) .straight }

/-- The rule with one place changed. -/
def alter (change : Joint → Joint) (place : Nat) (rule : Rule) : Rule :=
  let long := rule.stretch (place + 1)
  { long with joints := long.joints.modify place change }

/-- The rule with a change at all places where another rule, which starts at an offset, is met. -/
def merge (rule : Rule) (change : Joint → Joint) (offset : Nat) (other : Rule) : Rule :=
  other.joints.zipIdx.foldl
    (fun rule (joint, place) => if joint.isMet then rule.alter change (offset + place) else rule)
    rule

/-- The rule with a gap. -/
def withGap (gap : Gap) (rule : Rule) : Rule :=
  { rule with gaps := rule.gaps ++ [gap] }

/-- Whether a gap is at a place. -/
def isOpenAt (rule : Rule) (place : Nat) : Bool :=
  rule.gaps.any fun gap => gap.start ≤ place && place < gap.start + gap.width

/-- The characters of the rule at a place: a gap has all of its line where it starts. -/
def lettersAt (rule : Rule) (place : Nat) (joint : Joint) : List Char :=
  match rule.gaps.find? (·.start == place) with
  | some gap => gap.letters
  | none =>
    if rule.isOpenAt place then []
    else [joint.letter (place = 0 || ! rule.isOpenAt (place - 1)) (! rule.isOpenAt (place + 1))]

/-- The characters of the rule. -/
def letters (rule : Rule) : List Char :=
  rule.joints.zipIdx.flatMap fun (joint, place) => rule.lettersAt place joint

end Rule

/-- A finished line: text, or a rule between the rows of a table. -/
inductive Line where
  | text (letters : List Char)
  | rule (rule : Rule)
deriving DecidableEq, Repr

namespace Line

/-- The characters of a line. -/
def letters : Line → List Char
  | .text letters => letters
  | .rule joined => joined.letters

/-- The line with spaces, or the rule straight on, up to a width. -/
def pad (width : Nat) : Line → Line
  | .text letters => .text (letters ++ List.replicate (width - Text.width letters) ' ')
  | .rule joined => .rule (joined.stretch width)

/-- The rule that a line is. -/
def rule? : Line → Option Rule
  | .rule joined => some joined
  | .text _ => none

/-- Whether a line has text. -/
def hasText : Line → Bool
  | .text letters => ! letters.isEmpty
  | .rule _ => false

end Line

end Letterbox.Html
