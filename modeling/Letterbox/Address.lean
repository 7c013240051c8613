/-!
# Addresses

An address is a mailbox somewhere, a name for it, or both.
-/

namespace Letterbox

/-- An address with an optional name for people. -/
structure Address where
  name : Option String
  address : Option String
deriving DecidableEq, Repr

namespace Address

/-- An address is written behind its name, in angle brackets. -/
def text : Address → String
  | ⟨some name, some address⟩ => name ++ " <" ++ address ++ ">"
  | ⟨none, some address⟩ => address
  | ⟨some name, none⟩ => name
  | ⟨none, none⟩ => ""

/-- The texts of addresses that have one. -/
def texts (addresses : List Address) : List String :=
  (addresses.map text).filter (! ·.isEmpty)

end Address

end Letterbox
