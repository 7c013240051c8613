/-!
# The type of a document

A document may declare its type. Types from before the rules of today make a document lenient: a
paragraph in it may hold a table.
-/

namespace Letterbox.Html

/-- The blanks of markup. -/
def isMarkupBlank (letter : Char) : Bool :=
  letter == ' ' || letter == '\t' || letter == '\n' || letter == '\x0c' || letter == '\r'

/-- A name in lower case. -/
def lowerName (letters : List Char) : String :=
  String.ofList (letters.map Char.toLower)

/-- The text up to a character, and the text behind it. -/
def cutAt (stop : Char) (text : List Char) : List Char × List Char :=
  (text.takeWhile (· != stop), (text.dropWhile (· != stop)).drop 1)

/-- A declaration of the type of a document. -/
structure Doctype where
  name : String
  publicId? : Option String
  systemId? : Option String
  /-- The declaration breaks off, or holds what does not belong there. -/
  malformed : Bool
deriving DecidableEq, Repr

namespace Doctype

/-- What starts the public identifiers of lenient types, in lower case. -/
def lenientStarts : List String :=
  ["-//advasoft ltd//dtd html 3.0 aswedit + extensions//",
    "-//as//dtd html 3.0 aswedit + extensions//",
    "-//ietf//dtd html 2.0 level 1//", "-//ietf//dtd html 2.0 level 2//",
    "-//ietf//dtd html 2.0 strict level 1//", "-//ietf//dtd html 2.0 strict level 2//",
    "-//ietf//dtd html 2.0 strict//", "-//ietf//dtd html 2.0//", "-//ietf//dtd html 2.1e//",
    "-//ietf//dtd html 3.0//", "-//ietf//dtd html 3.2 final//", "-//ietf//dtd html 3.2//",
    "-//ietf//dtd html 3//", "-//ietf//dtd html level 0//", "-//ietf//dtd html level 1//",
    "-//ietf//dtd html level 2//", "-//ietf//dtd html level 3//",
    "-//ietf//dtd html strict level 0//", "-//ietf//dtd html strict level 1//",
    "-//ietf//dtd html strict level 2//", "-//ietf//dtd html strict level 3//",
    "-//ietf//dtd html strict//", "-//ietf//dtd html//",
    "-//metrius//dtd metrius presentational//",
    "-//microsoft//dtd internet explorer 2.0 html strict//",
    "-//microsoft//dtd internet explorer 2.0 html//",
    "-//microsoft//dtd internet explorer 2.0 tables//",
    "-//microsoft//dtd internet explorer 3.0 html strict//",
    "-//microsoft//dtd internet explorer 3.0 html//",
    "-//microsoft//dtd internet explorer 3.0 tables//",
    "-//netscape comm. corp.//dtd html//", "-//netscape comm. corp.//dtd strict html//",
    "-//o'reilly and associates//dtd html 2.0//",
    "-//o'reilly and associates//dtd html extended 1.0//",
    "-//o'reilly and associates//dtd html extended relaxed 1.0//",
    "-//softquad software//dtd hotmetal pro 6.0::19990601::extensions to html 4.0//",
    "-//softquad//dtd hotmetal pro 4.0::19971010::extensions to html 4.0//",
    "-//spyglass//dtd html 2.0 extended//", "-//sq//dtd html 2.0 hotmetal + extensions//",
    "-//sun microsystems corp.//dtd hotjava html//",
    "-//sun microsystems corp.//dtd hotjava strict html//",
    "-//w3c//dtd html 3 1995-03-24//", "-//w3c//dtd html 3.2 draft//",
    "-//w3c//dtd html 3.2 final//", "-//w3c//dtd html 3.2//", "-//w3c//dtd html 3.2s draft//",
    "-//w3c//dtd html 4.0 frameset//", "-//w3c//dtd html 4.0 transitional//",
    "-//w3c//dtd html experimental 19960712//", "-//w3c//dtd html experimental 970421//",
    "-//w3c//dtd w3 html//", "-//w3o//dtd w3 html 3.0//", "-//webtechs//dtd mozilla html 2.0//",
    "-//webtechs//dtd mozilla html//"]

/-- What starts the public identifiers of types that are lenient without a system identifier. -/
def laxStarts : List String :=
  ["-//w3c//dtd html 4.01 frameset//", "-//w3c//dtd html 4.01 transitional//"]

/-- The public identifiers of other lenient types. -/
def lenientPublicIds : List String :=
  ["-//w3o//dtd w3 html strict 3.0//en//", "-/w3c/dtd html 4.0 transitional/en", "html"]

/-- The system identifier of a lenient type. -/
def lenientSystemId : String := "http://www.ibm.com/data/dtd/v11/ibmxhtml1-transitional.dtd"

/-- Whether a document of the type is lenient. -/
def isLenient (doctype : Doctype) : Bool :=
  let starts (starts : List String) :=
    doctype.publicId?.any fun identifier => starts.any fun start => identifier.startsWith start
  doctype.malformed || doctype.name != "html"
    || doctype.publicId?.any lenientPublicIds.contains
    || doctype.systemId? == some lenientSystemId
    || starts lenientStarts
    || (starts laxStarts && doctype.systemId?.isNone)

/-- The declaration with a fault, and the text behind the angle bracket that ends it. -/
def spoil (doctype : Doctype) (text : List Char) : Doctype × List Char :=
  ({ doctype with malformed := true }, (cutAt '>' text).2)

/-- The identifier at the start of a text up to its quotation mark, and the rest; none if it breaks
off, with the text behind the declaration. -/
def cutIdentifier (quote : Char) (text : List Char) : Option String × List Char :=
  let stops (letter : Char) := letter == quote || letter == '>'
  let identifier := text.takeWhile (! stops ·)
  match text.drop identifier.length with
  | stop :: rest => (if stop == quote then some (lowerName identifier) else none, rest)
  | [] => (none, [])

/-- The end of a declaration, behind its identifiers. -/
def cutEnd (doctype : Doctype) (text : List Char) : Doctype × List Char :=
  if (text.dropWhile isMarkupBlank).isEmpty then doctype.spoil []
  else (doctype, (cutAt '>' text).2)

/-- The system identifier of a declaration and what follows it. -/
def cutSystemId (doctype : Doctype) (quote : Char) (text : List Char) : Doctype × List Char :=
  match cutIdentifier quote text with
  | (some identifier, rest) => { doctype with systemId? := some identifier }.cutEnd rest
  | (none, rest) => ({ doctype with malformed := true }, rest)

/-- The public identifier of a declaration and what follows it. -/
def cutPublicId (doctype : Doctype) (quote : Char) (text : List Char) : Doctype × List Char :=
  match cutIdentifier quote text with
  | (some identifier, rest) =>
    let named := { doctype with publicId? := some identifier }
    match rest.dropWhile isMarkupBlank with
    | '>' :: rest => (named, rest)
    | '"' :: rest => named.cutSystemId '"' rest
    | '\'' :: rest => named.cutSystemId '\'' rest
    | rest => named.spoil rest
  | (none, rest) => ({ doctype with malformed := true }, rest)

/-- The rest of a declaration behind the name. -/
def cutIdentifiers (doctype : Doctype) (text : List Char) : Doctype × List Char :=
  let text := text.dropWhile isMarkupBlank
  let after := (text.drop 6).dropWhile isMarkupBlank
  let keyword := lowerName (text.take 6)
  match text with
  | '>' :: rest => (doctype, rest)
  | _ =>
    if keyword != "public" && keyword != "system" then doctype.spoil text
    else
      let cut := if keyword == "public" then doctype.cutPublicId else doctype.cutSystemId
      match after with
      | '"' :: rest => cut '"' rest
      | '\'' :: rest => cut '\'' rest
      | rest => doctype.spoil rest

/-- The declaration at the start of a text, from behind its first word on, and the rest. -/
def cut (text : List Char) : Doctype × List Char :=
  let text := text.dropWhile isMarkupBlank
  let name := text.takeWhile fun letter => ! isMarkupBlank letter && letter != '>'
  if name.isEmpty then Doctype.spoil ⟨"", none, none, false⟩ text
  else cutIdentifiers ⟨lowerName name, none, none, false⟩ (text.drop name.length)

end Doctype

end Letterbox.Html
