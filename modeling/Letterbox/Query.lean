import Letterbox.Entry
import Letterbox.Text.Order

/-!
# Queries

What can be asked of the entries of an index. `Query.selects` says which entries a query is about.
-/

namespace Letterbox

/-- A query. -/
inductive Query where
  | anything
  | nothing
  /-- A field has a term. -/
  | term (field : Field) (term : Term)
  /-- A field has a term from `lower` up to, but not including, `upper`. -/
  | terms (field : Field) (lower : Term) (upper : Option Term)
  /-- A field has a number from `least` to `most`. -/
  | numbers (field : Field) (least most : Int)
  | both (first second : Query)
  | either (first second : Query)
  | without (query excluded : Query)
deriving DecidableEq

/-- Whether a term lies from `lower` up to, but not including, `upper`. -/
def Term.inRange (lower : Term) (upper : Option Term) (term : Term) : Bool :=
  ! Text.lettersPrecede term lower && upper.all fun bound => Text.lettersPrecede term bound

/-- Whether an entry answers a query. -/
def Query.selects (entry : Entry) : Query → Bool
  | anything => true
  | nothing => false
  | term field wanted => (entry.terms field).contains wanted
  | terms field lower upper => (entry.terms field).any (Term.inRange lower upper)
  | numbers field least most =>
    (entry.document.numbers field).any fun number => least ≤ number && number ≤ most
  | both first second => first.selects entry && second.selects entry
  | either first second => first.selects entry || second.selects entry
  | without query excluded => query.selects entry && ! excluded.selects entry

/-- The code point after one; the surrogates are left out. -/
def Term.nextCode (code : Nat) : Nat :=
  if code = 0xD7FF then 0xE000 else code + 1

/--
The least term greater than every term with a given start, whose characters are listed from the last
to the first. There is none for a start of greatest characters.
-/
def Term.successorReversed? : List Char → Option Term
  | [] => none
  | last :: before =>
    if last.toNat = 0x10FFFF then successorReversed? before
    else some ((Char.ofNat (nextCode last.toNat) :: before).reverse)

/-- The least term greater than every term with a given start. -/
def Term.successor? (start : Term) : Option Term :=
  successorReversed? start.reverse

namespace Query

/-- All of some queries. -/
def everyOf : List Query → Query
  | [] => anything
  | [query] => query
  | query :: rest => both query (everyOf rest)

/-- Any of some queries. -/
def anyOf : List Query → Query
  | [] => nothing
  | [query] => query
  | query :: rest => either query (anyOf rest)

/-- A field has a term with a start. -/
def starting (field : Field) (start : Term) : Query :=
  terms field start start.successor?

/-- A field has a term with each of the starts. -/
def startingAll (field : Field) (starts : List Term) : Query :=
  everyOf (starts.map (starting field))

/-- The documents of a mailbox. -/
def inMailbox (mailbox : Mailbox) : Query :=
  term .mailbox mailbox.name.toList

/-- The documents of a kind. -/
def ofKind (kind : DocumentKind) : Query :=
  term .kind kind.name.toList

/-- The document of a kind with a key. -/
def withKey (key : String) (kind : DocumentKind) : Query :=
  both (term .id key.toList) (ofKind kind)

/-- The documents of the messages with numbers in a range. -/
def inRange (range : UidRange) : Query :=
  numbers .uid range.first.toNat range.last.toNat

/-- The contents of all messages. -/
def allMessages : Query :=
  both (inRange .all) (ofKind .message)

/-- The contents of the messages with numbers in some range. -/
def messagesIn (ranges : List UidRange) : Query :=
  both (anyOf (ranges.map inRange)) (ofKind .message)

end Query

end Letterbox
