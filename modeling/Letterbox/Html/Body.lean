import Letterbox.Html.Formatting

/-!
# The body

What a token in the body of a document does: which elements it begins, and which it ends. Tags may be
left out, and no token is wrong. The elements of a head may stand in the body as well.
-/

namespace Letterbox.Html

namespace Draft

/-- An opening tag of an element of a head. -/
def openInHead (draft : Draft) (tag : Tag) : Draft :=
  if headMarks.contains tag.name then draft.addEmpty tag
  else
    match tag.name with
    | "title" => draft.enterRaw .resolved tag
    | "script" => draft.enterRaw .script tag
    | "template" =>
      { draft.seclude.enter tag with
        takesFrames := false
        place := .inTemplate
        templatePlaces := .inTemplate :: draft.templatePlaces }
    | _ => draft.enterRaw .bare tag

/-- The end tag of a template. -/
def closeTemplate (draft : Draft) : Draft :=
  if draft.hasOpen ["template"] then
    let ended := ((draft.leaveAll allImpliedEnds).leaveThrough ["template"]).unseclude
    { ended with templatePlaces := ended.templatePlaces.drop 1 }.goWhereOpen
  else draft

/-- Ends the items of a list inside which no other block is open. -/
def closeItems (draft : Draft) (names : List String) : Draft :=
  let bars := specialElements.filter fun name => ! ["address", "div", "p"].contains name
  match draft.stack.find? (draft.isOneOf (names ++ bars)) with
  | some number =>
    if draft.isOneOf names number then
      let name := (draft.nameOf number).name
      (draft.leaveImplied name).leaveThrough [name]
    else draft
  | none => draft

/-- Begins a drawing or a formula, or a part of one. -/
def enterDrawing (draft : Draft) (vocabulary : Vocabulary) (tag : Tag) : Draft :=
  let name : ElementName := ⟨vocabulary, tag.name⟩
  if tag.selfClosing then draft.addElement name tag.attributes
  else draft.enterElement name tag.attributes

/-- The link that is open ends before another one. -/
def endLink (draft : Draft) : Draft :=
  match draft.recentFormatting.find? (·.isNamed "a") with
  | some (.element number _) => ((draft.adopt "a").forget number).leaveOnly number
  | _ => draft

/-- Frames take the place of the body, if nothing stands in it that keeps them out. -/
def openFrames (draft : Draft) (tag : Tag) : Draft :=
  match draft.stack.reverse with
  | root :: body :: _ =>
    if draft.takesFrames && draft.isOneOf ["body"] body then
      ({ draft with forest := draft.forest.detach body, stack := [root] }.enter tag).goTo .inFrames
    else draft
  | _ => draft

/-- A control that a tag leaves as it is: an input that is hidden. -/
def isHiddenInput (tag : Tag) : Bool :=
  tag.name == "input" && (attribute? tag.attributes "type").map lowerName == some "hidden"

/-- The draft, in which no frames can take the place of the body any more. -/
def withoutFrames (draft : Draft) : Draft :=
  { draft with takesFrames := false }

/-- An opening tag of an option, or of a group of options. -/
def openOption (draft : Draft) (tag : Tag) : Draft :=
  let ended :=
    if draft.holdsOpen "select" then
      draft.leaveImplied (if tag.name == "option" then "optgroup" else "")
    else if draft.topIsOneOf ["option"] then draft.leave
    else draft
  ended.resume.enter tag

/-- An opening tag of an element that stands in a line of text, and of any that no rule names. -/
def openInLine (draft : Draft) (tag : Tag) : Draft :=
  match tag.name with
  | "a" => draft.endLink.resume.enterFormatting tag
  | "nobr" =>
    let resumed := draft.resume
    (if resumed.holdsOpen "nobr" then (resumed.adopt "nobr").resume else resumed).enterFormatting tag
  | "image" => (draft.resume.addEmpty { tag with name := "img" }).withoutFrames
  | "input" =>
    let ended := if draft.holdsOpen "select" then draft.leaveThrough ["select"] else draft
    let added := ended.resume.addEmpty tag
    if isHiddenInput tag then added else added.withoutFrames
  | "button" =>
    let ended :=
      if draft.holdsOpen "button" then (draft.leaveImplied "").leaveThrough ["button"] else draft
    (ended.resume.enter tag).withoutFrames
  | "select" =>
    if draft.holdsOpen "select" then draft.leaveThrough ["select"]
    else (draft.resume.enter tag).withoutFrames
  | "option" | "optgroup" => draft.openOption tag
  | "rb" | "rtc" => (if draft.holdsOpen "ruby" then draft.leaveImplied "" else draft).enter tag
  | "rp" | "rt" => (if draft.holdsOpen "ruby" then draft.leaveImplied "rtc" else draft).enter tag
  | "svg" => draft.resume.enterDrawing .drawing tag
  | "math" => draft.resume.enterDrawing .formula tag
  | name =>
    if formattingElements.contains name then draft.resume.enterFormatting tag
    else if secludedElements.contains name then (draft.resume.enter tag).seclude.withoutFrames
    else if emptyElements.contains name then (draft.resume.addEmpty tag).withoutFrames
    else draft.resume.enter tag

/-- An opening tag in the body. -/
def openInBody (draft : Draft) (tag : Tag) : Draft :=
  match tag.name with
  | "html" | "head" | "frame" => draft
  | "body" =>
    if 1 < draft.stack.length && ! draft.hasOpen ["template"] then draft.withoutFrames else draft
  | "frameset" => draft.openFrames tag
  | "p" => draft.closeParagraph.enter tag
  | "pre" | "listing" =>
    { draft.closeParagraph.enter tag with takesFrames := false, skipsLineFeed := true }
  | "form" =>
    let inTemplate := draft.hasOpen ["template"]
    if draft.form?.isSome && ! inTemplate then draft
    else
      let entered := draft.closeParagraph.enter tag
      if inTemplate then entered else { entered with form? := entered.stack.head? }
  | "li" => (draft.withoutFrames.closeItems ["li"]).closeParagraph.enter tag
  | "dd" | "dt" => (draft.withoutFrames.closeItems ["dd", "dt"]).closeParagraph.enter tag
  | "plaintext" => { draft.closeParagraph.enter tag with raw? := some .endless }
  | "table" =>
    ((if draft.lenient then draft else draft.closeParagraph).enter tag).withoutFrames.goTo .inTable
  | "param" | "source" | "track" => draft.addEmpty tag
  | "hr" =>
    let ended := draft.closeParagraph
    let bare := if ended.holdsOpen "select" then ended.leaveImplied "" else ended
    (bare.addEmpty tag).withoutFrames
  | "textarea" =>
    { draft.enterRaw .resolved tag with takesFrames := false, skipsLineFeed := true }
  | "xmp" => draft.closeParagraph.resume.withoutFrames.enterRaw .bare tag
  | "iframe" => draft.withoutFrames.enterRaw .bare tag
  | "noembed" => draft.enterRaw .bare tag
  | name =>
    if headElements.contains name then draft.openInHead tag
    else if tableParts.contains name then draft
    else if blocks.contains name then draft.closeParagraph.enter tag
    else if headings.contains name then
      let ended := draft.closeParagraph
      (if ended.topIsOneOf headings then ended.leave else ended).enter tag
    else draft.openInLine tag

/-- The end tag of a form. -/
def closeForm (draft : Draft) : Draft :=
  if draft.hasOpen ["template"] then
    if draft.holdsOpen "form" then (draft.leaveImplied "").leaveThrough ["form"] else draft
  else
    match draft.form? with
    | none => draft
    | some number =>
      let freed := { draft with form? := none }
      if freed.finds (· == number) ElementName.endsSearch then
        (freed.leaveImplied "").leaveOnly number
      else freed

/-- An end tag in the body. -/
def closeInBody (draft : Draft) (name : String) : Draft :=
  match name with
  | "html" => draft
  | "body" => if draft.holdsOpen "body" then draft.goTo .afterBody else draft
  | "template" => draft.closeTemplate
  | "p" =>
    (if draft.holds ["p"] ElementName.endsParagraphSearch then draft
      else draft.enterImplied "p").closeParagraph
  | "li" => draft.close name ElementName.endsItemSearch
  | "dd" | "dt" => draft.close name ElementName.endsSearch
  | "br" => (draft.resume.addEmpty ⟨"br", [], false⟩).withoutFrames
  | "form" => draft.closeForm
  | name =>
    if headings.contains name then
      if draft.holds headings ElementName.endsSearch then
        (draft.leaveImplied "").leaveThrough headings
      else draft
    else if formattingElements.contains name then draft.adopt name
    else if secludedElements.contains name then
      if draft.holdsOpen name then
        ((draft.leaveImplied "").leaveThrough [name]).unseclude
      else draft
    else if blocks.contains name || ["button", "listing", "pre", "select"].contains name then
      if draft.holdsOpen name then (draft.leaveImplied "").leaveThrough [name] else draft
    else draft.closeOrdinary name

/-- A token in the body. -/
def feedBody (draft : Draft) : Token → Draft
  | .text letters =>
    let added := draft.addFormatted letters
    if letters.all isMarkupBlank then added else added.withoutFrames
  | .nul => draft
  | .opening tag => draft.openInBody tag
  | .closing name => draft.closeInBody name
  | .comment => draft.addComment
  | .doctype _ => draft

/-- A token between the parts of a table: what cannot stand there goes before the table. -/
def feedAside (draft : Draft) (token : Token) : Draft :=
  { { draft with fostering := true }.feedBody token with fostering := false }

end Draft

end Letterbox.Html
