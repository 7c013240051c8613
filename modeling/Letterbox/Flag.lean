import Letterbox.Json
import Letterbox.Text.LowerCase
import Letterbox.Text.Order

/-!
# Flags

A message carries system flags and free keywords. A flag has three written forms: the text people use,
the token by which an index finds it, and its JSON form.
-/

namespace Letterbox

/-- The flags whose meaning is fixed. -/
inductive SystemFlag where
  | answered
  | deleted
  | draft
  | flagged
  | recent
  | seen
deriving DecidableEq, Repr

namespace SystemFlag

/-- All system flags, in their order. -/
def all : List SystemFlag := [answered, deleted, draft, flagged, recent, seen]

/-- The place of a flag among all of them. -/
def rank : SystemFlag → Nat
  | answered => 0
  | deleted => 1
  | draft => 2
  | flagged => 3
  | recent => 4
  | seen => 5

/-- The text of a flag. -/
def text : SystemFlag → String
  | answered => "\\Answered"
  | deleted => "\\Deleted"
  | draft => "\\Draft"
  | flagged => "\\Flagged"
  | recent => "\\Recent"
  | seen => "\\Seen"

/-- The text of a flag in capitals, by which it is indexed. -/
def token : SystemFlag → String
  | answered => "\\ANSWERED"
  | deleted => "\\DELETED"
  | draft => "\\DRAFT"
  | flagged => "\\FLAGGED"
  | recent => "\\RECENT"
  | seen => "\\SEEN"

/-- The name of a flag in JSON. -/
def jsonName : SystemFlag → String
  | answered => "answered"
  | deleted => "deleted"
  | draft => "draft"
  | flagged => "flagged"
  | recent => "recent"
  | seen => "seen"

end SystemFlag

/-- A flag of a message. -/
inductive Flag where
  | system (flag : SystemFlag)
  | keyword (name : String)
deriving DecidableEq, Repr

namespace Flag

/-- The text of a flag; a keyword is its own text. -/
def text : Flag → String
  | system flag => flag.text
  | keyword name => name

/-- The token by which a flag is indexed; a keyword is its own token. -/
def token : Flag → String
  | system flag => flag.token
  | keyword name => name

/-- The flag that a text names: a system flag in any case of its ASCII letters, or else a keyword. -/
def ofText (text : String) : Flag :=
  match SystemFlag.all.find? fun flag => Text.lowerAscii flag.text == Text.lowerAscii text with
  | some flag => system flag
  | none => keyword text

/-- System flags come first, in their order; keywords follow in the order of their characters. -/
def before : Flag → Flag → Bool
  | system first, system second => first.rank < second.rank
  | system _, keyword _ => true
  | keyword _, system _ => false
  | keyword first, keyword second => Text.precedes first second

/-- The JSON form: the name of a system flag, or an object with the keyword. -/
def toJson : Flag → Json
  | system flag => Json.str flag.jsonName
  | keyword name => Json.record [("keyword", Json.str name)]

/-- The flag with a JSON form; `null` may stand with the name of a system flag. -/
def ofJson? (value : Json) : Option Flag :=
  match value.alternative? with
  | some ("keyword", some carried) => carried.text?.map keyword
  | _ => value.choice? (SystemFlag.all.map fun flag => (flag.jsonName, system flag))

end Flag

/-- A set of flags: a list in order without repetition. -/
structure Flags where
  toList : List Flag
  ordered : toList.Pairwise fun first second => first.before second = true
deriving DecidableEq

namespace Flag

theorem before_trans {first second third : Flag} (h₁ : first.before second = true)
    (h₂ : second.before third = true) : first.before third = true := by
  cases first <;> cases second <;> cases third <;> simp_all [before]
  · omega
  · exact Text.precedes_trans h₁ h₂

theorem before_of_not {first second : Flag} (h₁ : first ≠ second)
    (h₂ : ¬ first.before second = true) : second.before first = true := by
  cases first with
  | system first =>
    cases second with
    | system second =>
      cases first <;> cases second <;> simp_all [before, SystemFlag.rank]
    | keyword second => simp [before] at h₂
  | keyword first =>
    cases second with
    | system second => rfl
    | keyword second =>
      exact Text.precedes_total (fun h => h₁ (by rw [h])) h₂

/-- Puts a flag into an ordered list unless it is there. -/
def insertInto (flag : Flag) : List Flag → List Flag
  | [] => [flag]
  | head :: rest =>
    if flag = head then head :: rest
    else if flag.before head then flag :: head :: rest
    else head :: insertInto flag rest

theorem mem_insertInto {flag other : Flag} {flags : List Flag} :
    other ∈ insertInto flag flags ↔ other = flag ∨ other ∈ flags := by
  induction flags with
  | nil => simp [insertInto]
  | cons head rest ih =>
    unfold insertInto
    split
    · next h => subst h; simp
    · split
      · simp
      · simp only [List.mem_cons, ih]
        constructor <;> rintro (h | h | h) <;> simp [h]

theorem pairwise_insertInto {flag : Flag} {flags : List Flag}
    (h : flags.Pairwise fun first second => first.before second = true) :
    (insertInto flag flags).Pairwise fun first second => first.before second = true := by
  induction flags with
  | nil => simp [insertInto]
  | cons head rest ih =>
    obtain ⟨h₁, h₂⟩ := List.pairwise_cons.mp h
    unfold insertInto
    split
    · exact h
    · next hne =>
      split
      · next hlt =>
        refine List.pairwise_cons.mpr ⟨fun other hother => ?_, h⟩
        rcases List.mem_cons.mp hother with hother | hother
        · exact hother ▸ hlt
        · exact before_trans hlt (h₁ other hother)
      · next hlt =>
        refine List.pairwise_cons.mpr ⟨fun other hother => ?_, ih h₂⟩
        rcases mem_insertInto.mp hother with hother | hother
        · exact hother ▸ before_of_not hne hlt
        · exact h₁ other hother

end Flag

namespace Flags

/-- No flags. -/
def empty : Flags := ⟨[], List.Pairwise.nil⟩

instance : Inhabited Flags := ⟨empty⟩

/-- Whether a flag is in the set. -/
def contains (flags : Flags) (flag : Flag) : Bool :=
  decide (flag ∈ flags.toList)

/-- The set with a flag added. -/
def insert (flags : Flags) (flag : Flag) : Flags :=
  ⟨flag.insertInto flags.toList, Flag.pairwise_insertInto flags.ordered⟩

/-- The set without a flag. -/
def erase (flags : Flags) (flag : Flag) : Flags :=
  ⟨flags.toList.filter (· ≠ flag), flags.ordered.filter _⟩

/-- The set of the listed flags. -/
def ofList (flags : List Flag) : Flags :=
  flags.foldl insert empty

/-- The number of flags. -/
def size (flags : Flags) : Nat :=
  flags.toList.length

/-- The tokens of the flags, in their order. -/
def tokens (flags : Flags) : List String :=
  flags.toList.map Flag.token

/-- The JSON form: the list of the flags. -/
def toJson (flags : Flags) : Json :=
  .array (flags.toList.map Flag.toJson)

/-- The set with a JSON form. -/
def ofJson? (value : Json) : Option Flags := do
  let items ← value.items?
  let flags ← items.mapM Flag.ofJson?
  some (ofList flags)

end Flags

end Letterbox
