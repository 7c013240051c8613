import Letterbox.Failure

/-!
# Fields

The fields of the documents of an index, in the order in which an index numbers them.
-/

namespace Letterbox

/-- The headers whose addresses are searched by themselves. -/
inductive AddressRole where
  | sender
  | recipient
  | copy
  | blindCopy
deriving DecidableEq, Repr

namespace AddressRole

/-- All roles. -/
def all : List AddressRole := [sender, recipient, copy, blindCopy]

/-- The name of a role: that of its header. -/
def name : AddressRole → String
  | sender => "from"
  | recipient => "to"
  | copy => "cc"
  | blindCopy => "bcc"

/-- The role of a header, whose name may be in any case of its ASCII letters. -/
def ofHeader? (header : String) : Option AddressRole :=
  all.find? (·.name == Text.lowerAscii header)

end AddressRole

/-- The kinds of values. -/
inductive ValueType where
  | text
  | word
  | integer
  /-- A kind of values that no document here has. -/
  | other (name : String)
deriving DecidableEq, Repr

namespace ValueType

/-- The name of a kind of values. -/
def name : ValueType → String
  | text => "Str"
  | word => "U64"
  | integer => "I64"
  | other name => name

/-- The kind of values with a name. -/
def named : String → ValueType
  | "Str" => text
  | "U64" => word
  | "I64" => integer
  | name => other name

end ValueType

/-- A field of the documents. -/
inductive Field where
  | id
  | kind
  | mailbox
  | uid
  | modSeq
  | size
  | flags
  /-- Header lines as people read them. -/
  | headers
  /-- Header lines whose tokens carry the name of the header. -/
  | header
  | body
  | addresses (role : AddressRole)
  | internalDate (resolution : Resolution)
deriving DecidableEq, Repr

namespace Field

/-- All fields, by number. -/
def all : List Field :=
  [id, kind, mailbox, uid, modSeq, size, flags, headers, header, body]
    ++ AddressRole.all.map addresses ++ Resolution.all.map internalDate

/-- The name of a field. -/
def name : Field → String
  | id => "id"
  | kind => "kind"
  | mailbox => "mailbox_id"
  | uid => "uid"
  | modSeq => "mod_seq"
  | size => "size"
  | flags => "flags"
  | headers => "headers"
  | header => "header"
  | body => "body"
  | addresses role => role.name
  | internalDate resolution => "internal_date_" ++ resolution.name

/-- The kind of the values of a field. -/
def valueType : Field → ValueType
  | uid | modSeq | size => .word
  | internalDate _ => .integer
  | _ => .text

/-- Whether the values of a field can be read back. -/
def isStored : Field → Bool
  | id | mailbox | uid => true
  | _ => false

/-- Whether a field is kept as a column: numbers are, for order and ranges. -/
def isColumn (field : Field) : Bool :=
  field.valueType != .text

/-- The field with a name. -/
def named? (name : String) : Option Field :=
  all.find? (·.name == name)

end Field

end Letterbox
