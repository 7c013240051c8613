import Letterbox.Criterion.Validity
import Letterbox.Snapshot

/-!
# Criteria as queries

A criterion becomes a query for the contents of messages. Flags are kept apart from contents, so the
messages with a flag are looked up first and then asked for by their numbers.
-/

namespace Letterbox

/-- The numbers that pass a test, among the words of 64 bits. -/
def NumberTest.query (field : Field) : NumberTest → Query
  | equals value => .numbers field value.toNat value.toNat
  | greaterThan value => .numbers field (value.toNat + 1) lastUid.toNat
  | lessThan value => .numbers field 0 (value.toNat - 1)

/-- The least count of milliseconds. -/
def leastMillis : Int := -9223372036854775808

/-- The greatest count of milliseconds. -/
def mostMillis : Int := 9223372036854775807

/-- The dates that pass a test, each cut to its unit. -/
def DateTest.query (test : DateTest) : Query :=
  let field := Field.internalDate test.resolution
  let cut := test.resolution.truncate test.date
  match test.order with
  | .on => .numbers field cut cut
  | .before => .numbers field leastMillis (cut - 1)
  | .after => .numbers field (cut + 1) mostMillis

/-- Whether the terms of a value start terms of a header. -/
def scopedQuery (analysis : Analysis) (scope : Term) (value : String) : Query :=
  .startingAll .header ((analysis.queryTerms value.toList).map (scope ++ ·))

/-- The query for a header; a header with a role has its addresses in a field of their own. -/
def HeaderTest.query? (analysis : Analysis) (name : String) : HeaderTest → Except Failure Query
  | present => .ok (.starting .header (headerScope name.toList))
  | contains value => .ok (scopedQuery analysis (headerScope name.toList) value)
  | address value =>
    match AddressRole.ofHeader? (String.ofList (Text.trim name.toList)) with
    | some role => .ok (.startingAll (.addresses role) (analysis.queryTerms value.toList))
    | none => .ok (scopedQuery analysis (headerScope name.toList) value)
  | date _ => .error (.headerDate name)

/-- The query for a text in the body, or in the body or the headers. -/
def TextScope.query (analysis : Analysis) (value : String) : TextScope → Query
  | body => .startingAll .body (analysis.queryTerms value.toList)
  | full =>
    let terms := analysis.queryTerms value.toList
    .either (.startingAll .body terms) (.startingAll .headers terms)

/-- The documents of a mailbox that say of a message's flags that one is set, or that it is not. -/
def Flag.documentsQuery (flag : Flag) (isSet : Bool) (mailbox : Mailbox) : Query :=
  let all := Query.both (.inMailbox mailbox) (.ofKind .flags)
  let token := Query.term .flags flag.token.toList
  if isSet then .both all token else .without all token

/-- The query for the messages of a mailbox with a flag, or without it. -/
def Flag.query (snapshot : Snapshot) (mailbox : Mailbox) (flag : Flag) (isSet : Bool) : Query :=
  .messagesIn (UidRange.compress (snapshot.uids (flag.documentsQuery isSet mailbox)))

namespace Criterion

/-- All messages that answer none of the queries. -/
def noneOf (queries : List Query) : Query :=
  queries.foldl Query.without .allMessages

mutual

/-- The query for a criterion. -/
def query? (snapshot : Snapshot) (mailbox : Mailbox) (analysis : Analysis) :
    Criterion → Except Failure Query
  | all => .ok .allMessages
  | uid ranges => .ok (.messagesIn ranges)
  | size test => .ok (test.query .size)
  | modSeq test => .ok (test.query .modSeq)
  | internalDate test => .ok test.query
  | header name test => test.query? analysis name
  | flag wanted isSet => .ok (wanted.query snapshot mailbox isSet)
  | text scope value => .ok (scope.query analysis value)
  | and criteria =>
    match queries? snapshot mailbox analysis criteria with
    | .error failure => .error failure
    | .ok [] => .ok .allMessages
    | .ok queries => .ok (.everyOf queries)
  | or criteria =>
    match queries? snapshot mailbox analysis criteria with
    | .error failure => .error failure
    | .ok queries => .ok (.anyOf queries)
  | nor criteria =>
    match queries? snapshot mailbox analysis criteria with
    | .error failure => .error failure
    | .ok queries => .ok (noneOf queries)

/-- The queries for criteria; the first that has none decides the failure. -/
def queries? (snapshot : Snapshot) (mailbox : Mailbox) (analysis : Analysis) :
    List Criterion → Except Failure (List Query)
  | [] => .ok []
  | criterion :: rest =>
    match criterion.query? snapshot mailbox analysis with
    | .error failure => .error failure
    | .ok query =>
      match queries? snapshot mailbox analysis rest with
      | .error failure => .error failure
      | .ok queries => .ok (query :: queries)

end

/-- The query for a criterion in one mailbox. -/
def translate (snapshot : Snapshot) (mailbox : Mailbox) (analysis : Analysis) (criterion : Criterion) :
    Except Failure Query :=
  match criterion.query? snapshot mailbox analysis with
  | .error failure => .error failure
  | .ok query => .ok (.both (.inMailbox mailbox) query)

end Criterion

end Letterbox
