import Letterbox.Html.Body

/-!
# Drawings and formulas

A drawing or a formula in a document has elements of its own, and rules of its own: any tag begins an
element in it, but for those of a page that show that the drawing should have ended.
-/

namespace Letterbox.Html

namespace Draft

/-- Whether a part of a formula holds ordinary markup, by what it says about itself. -/
def isAnnotation (draft : Draft) (number : Nat) : Bool :=
  draft.nameOf number == ⟨.formula, "annotation-xml"⟩
    && ((attribute? (draft.attributesOf number) "encoding").map lowerName).any fun encoding =>
      encoding == "text/html" || encoding == "application/xhtml+xml"

/-- Whether the rules of drawings and formulas take a token. -/
def isForDrawing (draft : Draft) (token : Token) : Bool :=
  match draft.stack.head? with
  | none => false
  | some number =>
    let name := draft.nameOf number
    if name.vocabulary == .page then false
    else
      match token with
      | .text _ | .nul => ! name.holdsText && ! name.holdsMarkup && ! draft.isAnnotation number
      | .opening tag =>
        let textTakes := name.holdsText && ! ["mglyph", "malignmark"].contains tag.name
        let drawingBegins := name == ⟨.formula, "annotation-xml"⟩ && tag.name == "svg"
        ! textTakes && ! name.holdsMarkup && ! drawingBegins && ! draft.isAnnotation number
      | _ => true

/-- Ends a drawing or a formula as far as it holds no ordinary markup. -/
def leaveDrawing (draft : Draft) : Draft :=
  draft.leaveUntil fun name => name.vocabulary == .page || name.holdsText || name.holdsMarkup

/-- An end tag in a drawing or a formula ends the innermost element there with its name, and whether it
does so. -/
def closeInDrawing (draft : Draft) (name : String) : Draft × Bool :=
  let named (number : Nat) := (draft.nameOf number).name == name
  let inside := draft.stack.takeWhile fun number => (draft.nameOf number).vocabulary != .page
  match inside.findIdx? named with
  | some place => ({ draft with stack := draft.stack.drop (place + 1) }, true)
  | none => (draft, false)

/-- A token in a drawing or a formula, and whether it is settled; otherwise the rules of its place take
it. -/
def feedDrawing (draft : Draft) : Token → Draft × Bool
  | .text letters =>
    let added := draft.addText letters
    (if letters.all isMarkupBlank then added else added.withoutFrames, true)
  | .nul => (draft.addText ['\ufffd'], true)
  | .comment => (draft.addComment, true)
  | .doctype _ => (draft, true)
  | .opening tag =>
    if endsDrawing tag then (draft.leaveDrawing, false)
    else
      let vocabulary := (draft.top?.map (·.vocabulary)).getD .page
      (draft.enterDrawing vocabulary tag, true)
  | .closing name =>
    if name == "br" || name == "p" then (draft.leaveDrawing, false) else draft.closeInDrawing name

end Draft

end Letterbox.Html
