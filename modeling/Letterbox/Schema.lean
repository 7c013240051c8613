import Letterbox.Field

/-!
# Schemas

The fields that an index declares. An index that was found somewhere is usable if its schema gives every
field of the documents its name and its number.
-/

namespace Letterbox

/-- A field as an index declares it. -/
structure FieldEntry where
  name : String
  type : ValueType
deriving DecidableEq, Repr

/-- The fields of an index, by number. -/
abbrev Schema := List FieldEntry

namespace Schema

/-- The fields of this library's documents. -/
def messages : Schema :=
  Field.all.map fun field => ⟨field.name, field.valueType⟩

/-- Whether a field has its name and its number in a schema. -/
def places (schema : Schema) (entry : FieldEntry × Nat) : Bool :=
  (schema[entry.2]?).map (·.name) == some entry.1.name

/-- Accepts a schema that gives each field its name and its number; the first that it does not is named. -/
def ensureCompatible (schema : Schema) : Except Failure Unit :=
  match messages.zipIdx.find? (! schema.places ·) with
  | some (entry, _) => .error (.incompatible entry.name)
  | none => .ok ()

end Schema

end Letterbox
