import Letterbox.Html.Drawing

/-!
# Reading markup

From marked-up text to the tree of its elements. What a token does depends on where it stands: in the
head, in the body, between the parts of a table. Each place says what a token begins and what it ends. A
rule either settles a token, or changes the place and leaves the token to the rule there.
-/

namespace Letterbox.Html

/-- What a rule says: the token is settled, or the rule at another place takes it. -/
inductive Step where
  | settled (draft : Draft)
  | moved (draft : Draft) (token : Token)

namespace Draft

/-- A token that the rule at another place takes. -/
def move (draft : Draft) (place : Place) (token : Token) : Step :=
  .moved (draft.goTo place) token

/-- Text that is blank as far as it goes, and what is behind the blanks. -/
def splitBlanks (letters : List Char) : List Char × List Char :=
  (letters.takeWhile isMarkupBlank, letters.dropWhile isMarkupBlank)

/-- The blanks at the start of a text are settled in one way, and what is behind them in another. -/
def stepText (draft : Draft) (letters : List Char) (blanks : Draft → List Char → Draft)
    (rest : Draft → Token → Step) : Step :=
  let (first, others) := splitBlanks letters
  let draft := if first.isEmpty then draft else blanks draft first
  if others.isEmpty then .settled draft else rest draft (.text others)

/-- Leaves blanks out. -/
def dropBlanks (draft : Draft) (_ : List Char) : Draft := draft

/-- A token before the declaration of the type: a document without one is lenient. -/
def stepBeforeDoctype (draft : Draft) (token : Token) : Step :=
  let begun (draft : Draft) (token : Token) := { draft with lenient := true }.move .beforeRoot token
  match token with
  | .comment => .settled draft
  | .doctype doctype => .settled ({ draft with lenient := doctype.isLenient }.goTo .beforeRoot)
  | .text letters => draft.stepText letters dropBlanks begun
  | token => begun draft token

/-- Whether an end tag may stand for the start of an element around it. -/
def impliesStart (name : String) : Bool :=
  ["body", "br", "html"].contains name

/-- Begins the outermost element. -/
def enterRoot (draft : Draft) (tag : Tag) : Draft :=
  let (forest, number) := draft.forest.plant (.element (.ofPage "html") tag.attributes)
  { draft with forest := forest.append 0 number, stack := [number] }

/-- A token before the outermost element. -/
def stepBeforeRoot (draft : Draft) (token : Token) : Step :=
  let begun (draft : Draft) (token : Token) :=
    (draft.enterRoot ⟨"html", [], false⟩).move .beforeHead token
  match token with
  | .comment | .doctype _ => .settled draft
  | .text letters => draft.stepText letters dropBlanks begun
  | .opening tag =>
    if tag.name == "html" then .settled ((draft.enterRoot tag).goTo .beforeHead) else begun draft token
  | .closing name =>
    if name == "head" || impliesStart name then begun draft token else .settled draft
  | .nul => begun draft token

/-- Begins the head. -/
def enterHead (draft : Draft) (tag : Tag) : Draft :=
  let entered := draft.enter tag
  { entered with head? := entered.stack.head?, place := .inHead }

/-- A token before the head. -/
def stepBeforeHead (draft : Draft) (token : Token) : Step :=
  let begun (draft : Draft) (token : Token) := .moved (draft.enterHead ⟨"head", [], false⟩) token
  match token with
  | .comment => .settled draft.addComment
  | .doctype _ => .settled draft
  | .text letters => draft.stepText letters dropBlanks begun
  | .opening tag =>
    if tag.name == "html" then .settled draft
    else if tag.name == "head" then .settled (draft.enterHead tag)
    else begun draft token
  | .closing name =>
    if name == "head" || impliesStart name then begun draft token else .settled draft
  | .nul => begun draft token

/-- A token in the head. -/
def stepInHead (draft : Draft) (token : Token) : Step :=
  let end_ (draft : Draft) (token : Token) := draft.leave.move .afterHead token
  match token with
  | .comment => .settled draft.addComment
  | .doctype _ => .settled draft
  | .text letters => draft.stepText letters addText end_
  | .opening tag =>
    match tag.name with
    | "html" | "head" => .settled draft
    | "noscript" => .settled ((draft.enter tag).goTo .inHeadFallback)
    | name =>
      if headElements.contains name then .settled (draft.openInHead tag) else end_ draft token
  | .closing name =>
    if name == "head" then .settled (draft.leave.goTo .afterHead)
    else if name == "template" then .settled draft.closeTemplate
    else if impliesStart name then end_ draft token
    else .settled draft
  | .nul => end_ draft token

/-- A token in the part of a head that stands in for a script. -/
def stepInHeadFallback (draft : Draft) (token : Token) : Step :=
  let end_ (draft : Draft) (token : Token) := draft.leave.move .inHead token
  match token with
  | .comment => .settled draft.addComment
  | .doctype _ => .settled draft
  | .text letters => draft.stepText letters addText end_
  | .opening tag =>
    if ["html", "head", "noscript"].contains tag.name then .settled draft
    else if ["basefont", "bgsound", "link", "meta", "noframes", "style"].contains tag.name then
      .settled (draft.openInHead tag)
    else end_ draft token
  | .closing name =>
    if name == "noscript" then .settled (draft.leave.goTo .inHead)
    else if name == "br" then end_ draft token
    else .settled draft
  | .nul => end_ draft token

/-- A token behind the head. The elements of a head go into it all the same. -/
def stepAfterHead (draft : Draft) (token : Token) : Step :=
  let begun (draft : Draft) (token : Token) := (draft.enterImplied "body").move .inBody token
  match token with
  | .comment => .settled draft.addComment
  | .doctype _ => .settled draft
  | .text letters => draft.stepText letters addText begun
  | .opening tag =>
    match tag.name with
    | "html" | "head" => .settled draft
    | "body" => .settled ((draft.enter tag).withoutFrames.goTo .inBody)
    | "frameset" => .settled ((draft.enter tag).goTo .inFrames)
    | name =>
      if headElements.contains name then
        match draft.head? with
        | some head =>
          .settled (({ draft with stack := head :: draft.stack }.openInHead tag).leaveOnly head)
        | none => .settled draft
      else begun draft token
  | .closing name =>
    if name == "template" then .settled draft.closeTemplate
    else if impliesStart name then begun draft token
    else .settled draft
  | .nul => begun draft token

/-- A token in the body. -/
def stepInBody (draft : Draft) (token : Token) : Step :=
  match token with
  | .closing "html" => if draft.holdsOpen "body" then draft.move .afterBody token else .settled draft
  | token => .settled (draft.feedBody token)

/-- A token in text that takes markup as it is. -/
def stepInRawText (draft : Draft) (token : Token) : Step :=
  match token with
  | .text letters => .settled (draft.addText letters)
  | .closing _ => .settled (draft.leave.goTo draft.placeBehind)
  | _ => .settled draft

/-- A token between the parts of a table. -/
def stepInTable (draft : Draft) (token : Token) : Step :=
  let bare := draft.leaveUntil ElementName.endsTableSearch
  match token with
  | .comment => .settled draft.addComment
  | .doctype _ => .settled draft
  | .text _ | .nul =>
    if draft.topIsOneOf tableFrames then
      { draft with placeBehind := draft.place, tableText := [] }.move .inTableText token
    else .settled (draft.feedAside token)
  | .opening tag =>
    match tag.name with
    | "caption" => .settled ((bare.seclude.enter tag).goTo .inCaption)
    | "colgroup" => .settled ((bare.enter tag).goTo .inColumns)
    | "tbody" | "tfoot" | "thead" => .settled ((bare.enter tag).goTo .inRows)
    | "col" => (bare.enterImplied "colgroup").move .inColumns token
    | "td" | "th" | "tr" => (bare.enterImplied "tbody").move .inRows token
    | "table" =>
      if draft.holdsTablePart ["table"] then .moved (draft.leaveThrough ["table"]).goWhereOpen token
      else .settled draft
    | "style" | "script" | "template" => .settled (draft.openInHead tag)
    | "input" =>
      .settled (if isHiddenInput tag then draft.addEmpty tag else draft.feedAside token)
    | "form" =>
      if draft.form?.isSome || draft.hasOpen ["template"] then .settled draft
      else
        let entered := draft.enter tag
        .settled { entered.leave with form? := entered.stack.head? }
    | _ => .settled (draft.feedAside token)
  | .closing name =>
    if name == "table" then
      .settled
        (if draft.holdsTablePart [name] then (draft.leaveThrough [name]).goWhereOpen else draft)
    else if name == "body" || name == "html" || tableParts.contains name then .settled draft
    else if name == "template" then .settled draft.closeTemplate
    else .settled (draft.feedAside token)

/-- The text between the parts of a table has ended: unless it is blank, it goes before the table. -/
def endTableText (draft : Draft) : Draft :=
  let letters := draft.tableText
  let emptied := { draft with tableText := [], place := draft.placeBehind }
  if letters.isEmpty then emptied
  else if letters.all isMarkupBlank then emptied.addText letters
  else emptied.feedAside (.text letters)

/-- A token in text between the parts of a table. -/
def stepInTableText (draft : Draft) (token : Token) : Step :=
  match token with
  | .text letters => .settled { draft with tableText := draft.tableText ++ letters }
  | .nul => .settled draft
  | token => .moved draft.endTableText token

/-- A token in the caption of a table. -/
def stepInCaption (draft : Draft) (token : Token) : Step :=
  let isOpen := draft.holdsTablePart ["caption"]
  let ended := ((draft.leaveImplied "").leaveThrough ["caption"]).unseclude.goTo .inTable
  match token with
  | .opening tag =>
    if tableParts.contains tag.name then if isOpen then .moved ended token else .settled draft
    else draft.stepInBody token
  | .closing name =>
    if name == "caption" then .settled (if isOpen then ended else draft)
    else if name == "table" then if isOpen then .moved ended token else .settled draft
    else if name == "body" || name == "html" || tableParts.contains name then .settled draft
    else draft.stepInBody token
  | token => draft.stepInBody token

/-- A token in a group of columns. -/
def stepInColumns (draft : Draft) (token : Token) : Step :=
  let end_ (draft : Draft) (token : Token) :=
    if draft.topIsOneOf ["colgroup"] then draft.leave.move .inTable token else .settled draft
  match token with
  | .comment => .settled draft.addComment
  | .doctype _ => .settled draft
  | .text letters => draft.stepText letters addText end_
  | .opening tag =>
    match tag.name with
    | "html" => .settled draft
    | "col" => .settled (draft.addEmpty tag)
    | "template" => .settled (draft.openInHead tag)
    | _ => end_ draft token
  | .closing name =>
    match name with
    | "colgroup" =>
      .settled (if draft.topIsOneOf [name] then draft.leave.goTo .inTable else draft)
    | "col" => .settled draft
    | "template" => .settled draft.closeTemplate
    | _ => end_ draft token
  | .nul => end_ draft token

/-- A token between the rows of a group. -/
def stepInRows (draft : Draft) (token : Token) : Step :=
  let bare := draft.leaveUpTo (rowGroups ++ ["template", "html"])
  let end_ :=
    if draft.holdsTablePart ["table", "tbody", "tfoot"] then bare.leave.move .inTable token
    else .settled draft
  match token with
  | .opening tag =>
    match tag.name with
    | "tr" => .settled ((bare.enter tag).goTo .inRow)
    | "td" | "th" => (bare.enterImplied "tr").move .inRow token
    | name => if tableParts.contains name then end_ else draft.stepInTable token
  | .closing name =>
    if rowGroups.contains name then
      .settled (if draft.holdsTablePart [name] then bare.leave.goTo .inTable else draft)
    else if name == "table" then end_
    else draft.stepInTable token
  | token => draft.stepInTable token

/-- A token between the cells of a row. -/
def stepInRow (draft : Draft) (token : Token) : Step :=
  let bare := draft.leaveUpTo ["tr", "template", "html"]
  let isOpen := draft.holdsTablePart ["tr"]
  let end_ := if isOpen then bare.leave.move .inRows token else .settled draft
  match token with
  | .opening tag =>
    if cellElements.contains tag.name then .settled ((bare.enter tag).seclude.goTo .inCell)
    else if tableParts.contains tag.name then end_
    else draft.stepInTable token
  | .closing name =>
    if name == "tr" then .settled (if isOpen then bare.leave.goTo .inRows else draft)
    else if name == "table" then end_
    else if rowGroups.contains name then
      if draft.holdsTablePart [name] then end_ else .settled draft
    else draft.stepInTable token
  | token => draft.stepInTable token

/-- A token in a cell. -/
def stepInCell (draft : Draft) (token : Token) : Step :=
  let ended := ((draft.leaveImplied "").leaveThrough cellElements).unseclude.goTo .inRow
  match token with
  | .opening tag =>
    if tableParts.contains tag.name then
      if draft.holdsTablePart cellElements then .moved ended token else .settled draft
    else draft.stepInBody token
  | .closing name =>
    if cellElements.contains name then
      .settled
        (if draft.holdsTablePart [name] then
          ((draft.leaveImplied "").leaveThrough [name]).unseclude.goTo .inRow
        else draft)
    else if tableFrames.contains name then
      if draft.holdsTablePart [name] then .moved ended token else .settled draft
    else if name == "body" || name == "html" || tableParts.contains name then .settled draft
    else draft.stepInBody token
  | token => draft.stepInBody token

/-- A token in a template: the first tag says where in a document its content could stand. -/
def stepInTemplate (draft : Draft) (token : Token) : Step :=
  let stand (place : Place) : Step :=
    .moved { draft with templatePlaces := place :: draft.templatePlaces.drop 1, place := place } token
  match token with
  | .opening tag =>
    match tag.name with
    | "caption" | "colgroup" | "tbody" | "tfoot" | "thead" => stand .inTable
    | "col" => stand .inColumns
    | "tr" => stand .inRows
    | "td" | "th" => stand .inRow
    | name => if headElements.contains name then .settled (draft.openInHead tag) else stand .inBody
  | .closing name => .settled (if name == "template" then draft.closeTemplate else draft)
  | token => draft.stepInBody token

/-- A token behind the body: anything but blanks goes into the body all the same. -/
def stepAfterBody (draft : Draft) (token : Token) : Step :=
  match token with
  | .comment | .doctype _ => .settled draft
  | .text letters =>
    draft.stepText letters addFormatted fun draft token => draft.move .inBody token
  | .opening tag => if tag.name == "html" then .settled draft else draft.move .inBody token
  | .closing name =>
    if name == "html" && draft.place == .afterBody then .settled (draft.goTo .afterBodyEnd)
    else draft.move .inBody token
  | .nul => draft.move .inBody token

/-- A token in a set of frames, or behind it: text does not show there. -/
def stepInFrames (draft : Draft) (token : Token) : Step :=
  let inside := draft.place == .inFrames
  match token with
  | .comment => .settled draft.addComment
  | .text letters => .settled (draft.addText (letters.filter isMarkupBlank))
  | .opening tag =>
    match tag.name with
    | "frameset" => .settled (if inside then draft.enter tag else draft)
    | "frame" => .settled (if inside then draft.addEmpty tag else draft)
    | "noframes" => .settled (draft.openInHead tag)
    | _ => .settled draft
  | .closing name =>
    if inside && name == "frameset" && 1 < draft.stack.length then
      let left := draft.leave
      .settled (if left.topIsOneOf [name] then left else left.goTo .afterFrames)
    else if draft.place == .afterFrames && name == "html" then .settled (draft.goTo .afterFramesEnd)
    else .settled draft
  | _ => .settled draft

/-- What a token does at the place where it stands. -/
def stepInPlace (draft : Draft) (token : Token) : Step :=
  match draft.place with
  | .beforeDoctype => draft.stepBeforeDoctype token
  | .beforeRoot => draft.stepBeforeRoot token
  | .beforeHead => draft.stepBeforeHead token
  | .inHead => draft.stepInHead token
  | .inHeadFallback => draft.stepInHeadFallback token
  | .afterHead => draft.stepAfterHead token
  | .inBody => draft.stepInBody token
  | .inRawText => draft.stepInRawText token
  | .inTable => draft.stepInTable token
  | .inTableText => draft.stepInTableText token
  | .inCaption => draft.stepInCaption token
  | .inColumns => draft.stepInColumns token
  | .inRows => draft.stepInRows token
  | .inRow => draft.stepInRow token
  | .inCell => draft.stepInCell token
  | .inTemplate => draft.stepInTemplate token
  | .afterBody | .afterBodyEnd => draft.stepAfterBody token
  | .inFrames | .afterFrames | .afterFramesEnd => draft.stepInFrames token

/-- What a token does. -/
def step (draft : Draft) (token : Token) : Step :=
  if draft.isForDrawing token then
    let (fed, settled) := draft.feedDrawing token
    if settled then .settled fed else fed.stepInPlace token
  else draft.stepInPlace token

/-- The draft after one more token. A token moves a bounded number of times. -/
def settle (draft : Draft) (token : Token) : Nat → Draft
  | 0 => draft
  | fuel + 1 =>
    match draft.step token with
    | .settled draft => draft
    | .moved draft token => draft.settle token fuel

/-- The draft after one more token. -/
def feed (draft : Draft) (token : Token) : Draft :=
  let skips := draft.skipsLineFeed
  let draft := { draft with skipsLineFeed := false, raw? := none }
  let fuel := 4 * draft.stack.length + 16
  match token with
  | .text ('\n' :: rest) =>
    if skips then if rest.isEmpty then draft else draft.settle (.text rest) fuel
    else draft.settle token fuel
  | token => draft.settle token fuel

/-- The document behind the last token: text that is still on its way finds its place. -/
def finish (draft : Draft) : Draft :=
  if draft.place == .inTableText then draft.endTableText else draft

/-- Reads the tokens of a text. -/
def read (draft : Draft) (text : List Char) : Nat → Draft
  | 0 => draft
  | fuel + 1 =>
    if text.isEmpty then draft.finish
    else
      match nextToken draft.isInDrawing text with
      | (none, rest) => draft.read rest fuel
      | (some (.opening tag), rest) =>
        let fed := draft.feed (.opening tag)
        match fed.raw? with
        | none => fed.read rest fuel
        | some raw =>
          let (letters, after) := raw.cut tag.name rest
          (if letters.isEmpty then fed else fed.feed (.text letters)).read after fuel
      | (some token, rest) => (draft.feed token).read rest fuel

end Draft

/-- The nodes that a marked-up text describes. -/
def nodesOf (text : List Char) : List Node :=
  let plain := plainLineBreaks (if text.head? == some '\ufeff' then text.drop 1 else text)
  (Draft.start.read plain (plain.length + 1)).forest.documentNodes

end Letterbox.Html
