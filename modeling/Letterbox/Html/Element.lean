import Letterbox.Html.Node

/-!
# Kinds of elements

The names of the elements that the rules of markup tell apart: where a search through the open elements
ends, which elements end by themselves, and which only change the look of the text in them.
-/

namespace Letterbox.Html

namespace ElementName

/-- A name from the vocabulary of pages. -/
def ofPage (name : String) : ElementName := ⟨.page, name⟩

/-- Whether a name is from the vocabulary of pages and from a list. -/
def isOneOf (name : ElementName) (names : List String) : Bool :=
  name.vocabulary == .page && names.contains name.name

/-- The parts of a formula that hold ordinary text. -/
def holdsText (name : ElementName) : Bool :=
  name.vocabulary == .formula && ["mi", "mo", "mn", "ms", "mtext"].contains name.name

/-- The parts of a drawing that hold ordinary markup. -/
def holdsMarkup (name : ElementName) : Bool :=
  name.vocabulary == .drawing && ["foreignobject", "desc", "title"].contains name.name

/-- Whether an element ends a search for an open element. -/
def endsSearch (name : ElementName) : Bool :=
  name.isOneOf
      ["applet", "caption", "html", "table", "td", "th", "marquee", "object", "select", "template"]
    || name.holdsText || name.holdsMarkup

/-- Whether an element ends a search for an open item of a list. -/
def endsItemSearch (name : ElementName) : Bool :=
  name.endsSearch || name.isOneOf ["ol", "ul"]

/-- Whether an element ends a search for an open paragraph. -/
def endsParagraphSearch (name : ElementName) : Bool :=
  name.endsSearch || name.isOneOf ["button"]

/-- Whether an element ends a search for an open part of a table. -/
def endsTableSearch (name : ElementName) : Bool :=
  name.isOneOf ["html", "table", "template"]

end ElementName

/-- The headings. -/
def headings : List String := ["h1", "h2", "h3", "h4", "h5", "h6"]

/-- The elements at whose start a paragraph ends, and whose end tags end what is open in them. -/
def blocks : List String :=
  ["address", "article", "aside", "blockquote", "center", "details", "dialog", "dir", "div", "dl",
    "fieldset", "figcaption", "figure", "footer", "header", "hgroup", "main", "menu", "nav", "ol",
    "search", "section", "summary", "ul"]

/-- The elements that change the look of the text in them, and go on where an element ends too early. -/
def formattingElements : List String :=
  ["a", "b", "big", "code", "em", "font", "i", "nobr", "s", "small", "strike", "strong", "tt", "u"]

/-- The elements with formatting of their own. -/
def secludedElements : List String := ["applet", "marquee", "object"]

/-- The elements that end where an element around them ends. -/
def impliedEnds : List String :=
  ["dd", "dt", "li", "optgroup", "option", "p", "rb", "rp", "rt", "rtc"]

/-- The elements that end where a template around them ends. -/
def allImpliedEnds : List String :=
  impliedEnds ++ ["caption", "colgroup", "tbody", "td", "tfoot", "th", "thead", "tr"]

/-- The elements of a head that hold nothing. -/
def headMarks : List String := ["base", "basefont", "bgsound", "link", "meta"]

/-- The elements of a head. -/
def headElements : List String :=
  headMarks ++ ["noframes", "script", "style", "template", "title"]

/-- The elements in a text that hold nothing. -/
def emptyElements : List String := ["area", "br", "embed", "img", "input", "keygen", "wbr"]

/-- The groups of rows of a table. -/
def rowGroups : List String := ["tbody", "tfoot", "thead"]

/-- The cells of a table. -/
def cellElements : List String := ["td", "th"]

/-- The parts of a table. -/
def tableParts : List String :=
  ["caption", "col", "colgroup", "tbody", "td", "tfoot", "th", "thead", "tr"]

/-- The elements into which neither text nor other elements go. -/
def tableFrames : List String := ["table", "tbody", "tfoot", "thead", "tr"]

/-- The elements that an end tag of another name does not reach over. -/
def specialElements : List String :=
  ["address", "applet", "area", "article", "aside", "base", "basefont", "bgsound", "blockquote", "body",
    "br", "button", "caption", "center", "col", "colgroup", "dd", "details", "dir", "div", "dl", "dt",
    "embed", "fieldset", "figcaption", "figure", "footer", "form", "frame", "frameset", "h1", "h2",
    "h3", "h4", "h5", "h6", "head", "header", "hgroup", "hr", "html", "iframe", "img", "input",
    "isindex", "li", "link", "listing", "main", "marquee", "menu", "meta", "nav", "noembed", "noframes",
    "noscript", "object", "ol", "p", "param", "plaintext", "pre", "script", "section", "select",
    "source", "style", "summary", "table", "tbody", "td", "template", "textarea", "tfoot", "th",
    "thead", "title", "tr", "track", "ul", "wbr", "xmp"]

/-- The elements that cannot stand in a drawing or a formula. -/
def drawingEnders : List String :=
  headings
    ++ ["b", "big", "blockquote", "body", "br", "center", "code", "dd", "div", "dl", "dt", "em", "embed",
      "head", "hr", "i", "img", "li", "listing", "menu", "meta", "nobr", "ol", "p", "pre", "ruby", "s",
      "small", "span", "strong", "strike", "sub", "sup", "table", "tt", "u", "ul", "var"]

/-- Whether a tag cannot stand in a drawing or a formula. -/
def endsDrawing (tag : Tag) : Bool :=
  drawingEnders.contains tag.name
    || (tag.name == "font"
      && ["color", "face", "size"].any fun name => (attribute? tag.attributes name).isSome)

end Letterbox.Html
