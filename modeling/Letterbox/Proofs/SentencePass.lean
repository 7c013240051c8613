import Letterbox.Proofs.SentencePlaces
import Letterbox.Proofs.WindowCover

/-!
# Sentences in one pass

A text can be read once, letter by letter, with the place where the open sentence starts; where that one ends, the
slice of the text between two places is taken, and it starts later by the blanks that trimming drops. Places count
bytes, and no slice starts or stops within a letter. Main statement: the pass succeeds on every text and gives its
sentences.
-/

namespace Letterbox.Text

/-! ## Slices by bytes -/

/-- A text cut behind a number of bytes, if a letter starts there or the text ends. -/
def cutAt? (count : Nat) : List Char → Option (List Char × List Char)
  | [] => if count = 0 then some ([], []) else none
  | letter :: rest =>
    if count = 0 then some ([], letter :: rest)
    else do
      let (first, behind) ← cutAt? (← difference? count letter.utf8Size) rest
      return (letter :: first, behind)

/-- The letters of a text between two places in bytes, if these are in order and none is within a letter. -/
def byteSlice? (text : List Char) (start stop : Nat) : Option (List Char) := do
  let (_, behind) ← cutAt? start text
  let (slice, _) ← cutAt? (← difference? stop start) behind
  return slice

theorem cutAt?_append (first rest : List Char) : cutAt? (byteSize first) (first ++ rest) = some (first, rest) := by
  induction first with
  | nil =>
      cases rest with
      | nil => rfl
      | cons letter later => rfl
  | cons letter others ih =>
      have more : ¬ byteSize (letter :: others) = 0 := (byteSize_pos (List.cons_ne_nil letter others)).ne'
      have size : difference? (byteSize (letter :: others)) letter.utf8Size = some (byteSize others) := by
        rw [difference?, byteSize, if_pos (Nat.le_add_right _ _), Nat.add_sub_cancel_left]
      rw [List.cons_append, cutAt?, if_neg more, size]
      simp [ih]

theorem byteSlice?_append (before slice after : List Char) :
    byteSlice? (before ++ (slice ++ after)) (byteSize before) (byteSize (before ++ slice)) = some slice := by
  have size : difference? (byteSize (before ++ slice)) (byteSize before) = some (byteSize slice) := by
    rw [difference?, byteSize_append, if_pos (Nat.le_add_right _ _), Nat.add_sub_cancel_left]
  rw [byteSlice?, cutAt?_append, size]
  simp [cutAt?_append]

/-! ## The pass -/

/-- Where the open sentence starts, blanks included, and the sentences before it. -/
structure Pass where
  start : Nat
  found : List Piece

namespace Pass

/-- The sentences with the open one, which stops at a place, unless nothing is left of it. -/
def close? (text : List Char) (pass : Pass) (stop : Nat) : Option (List Piece) := do
  let slice ← byteSlice? text pass.start stop
  let trimmed := trimStart slice
  if trimmed.isEmpty then
    return pass.found
  return pass.found ++ [⟨← difference? (pass.start + byteSize slice) (byteSize trimmed), trimmed⟩]

/-- A line break closes the open sentence before it, a closing mark behind it. -/
def read? (text : List Char) (pass : Pass) (place : Nat) (letter : Char) : Option Pass := do
  let next := place + letter.utf8Size
  if isLineBreak letter then
    return ⟨next, ← pass.close? text place⟩
  else if closingMarks.contains letter then
    return ⟨next, ← pass.close? text next⟩
  else
    return pass

/-- Reads the letters of a text from a place on; the last sentence stops where the text does. -/
def run? (text : List Char) (pass : Pass) (place : Nat) : List Char → Option (List Piece)
  | [] => pass.close? text (byteSize text)
  | letter :: rest => do
    (← pass.read? text place letter).run? text (place + letter.utf8Size) rest

end Pass

/-- The sentences of a text, by one pass over its letters. -/
def sentencesInPass? (text : List Char) : Option (List Piece) :=
  Pass.run? text ⟨0, []⟩ 0 text

/-! ## Steps and runs -/

/-- What trimming leaves of segments. -/
def trimmedPieces (segments : List Piece) : List Piece :=
  (segments.map Piece.trimStart).filter (! ·.text.isEmpty)

theorem trimmedPieces_cons (segment : Piece) (segments : List Piece) :
    trimmedPieces (segment :: segments) = trimmedPieces [segment] ++ trimmedPieces segments := by
  simp only [trimmedPieces, ← List.filter_append, ← List.map_append, List.singleton_append]

variable {text before held : List Char} {start place : Nat}

/-- The open sentence is the slice that was read since it started, without its leading blanks. -/
theorem Pass.close?_eq {after : List Char} (split : text = before ++ (held ++ after))
    (starts : start = byteSize before) (stops : place = byteSize (before ++ held)) (found : List Piece) :
    Pass.close? text ⟨start, found⟩ place = some (found ++ trimmedPieces [⟨start, held⟩]) := by
  subst split starts stops
  have trimmed := Piece.stop_trimStart ⟨byteSize before, held⟩
  have offset : difference? (byteSize before + byteSize held) (byteSize (trimStart held))
      = some (byteSize before + byteSize (held.takeWhile isBlank)) := by
    simp only [Piece.stop, Piece.trimStart] at trimmed
    rw [difference?, ← trimmed, if_pos (Nat.le_add_left _ _), Nat.add_sub_cancel]
  rw [Pass.close?, byteSlice?_append]
  simp only [Option.bind_eq_bind, Option.bind_some, offset, trimmedPieces, List.map_singleton, Piece.trimStart]
  by_cases empty : (trimStart held).isEmpty = true
  · simp [empty]
  · simp [empty]

theorem byteSize_concat (before held : List Char) (letter : Char) :
    byteSize (before ++ (held ++ [letter])) = byteSize (before ++ held) + letter.utf8Size := by
  simp only [byteSize_append, byteSize, Nat.add_assoc, Nat.add_zero]

/-- What the letter at a place makes of a pass: it closes the open sentence or goes on with it. -/
theorem Pass.read?_eq {letter : Char} {rest : List Char} (split : text = before ++ (held ++ letter :: rest))
    (starts : start = byteSize before) (stops : place = byteSize (before ++ held)) (found : List Piece) :
    Pass.read? text ⟨start, found⟩ place letter
      = some (if isLineBreak letter then
          ⟨place + letter.utf8Size, found ++ trimmedPieces [⟨start, held⟩]⟩
        else if closingMarks.contains letter then
          ⟨place + letter.utf8Size, found ++ trimmedPieces [⟨start, held ++ [letter]⟩]⟩
        else ⟨start, found⟩) := by
  have longer : text = before ++ ((held ++ [letter]) ++ rest) := by simp [split]
  have next : place + letter.utf8Size = byteSize (before ++ (held ++ [letter])) := by
    rw [byteSize_concat, stops]
  simp only [read?, close?_eq split starts stops, close?_eq longer starts next]
  split
  · rfl
  · split
    · rfl
    · rfl

/-- A run adds the sentences of the segments that are left, of which the open sentence starts the first one. -/
theorem Pass.run?_eq {rest : List Char} (split : text = before ++ (held ++ rest))
    (starts : start = byteSize before) (stops : place = byteSize (before ++ held)) (found : List Piece) :
    Pass.run? text ⟨start, found⟩ place rest
      = some (found ++ trimmedPieces
          (⟨start, held ++ (cutSegments place rest).1⟩ :: (cutSegments place rest).2)) := by
  induction rest generalizing before held start place found with
  | nil =>
      have whole : byteSize text = byteSize (before ++ held) := by rw [split, List.append_nil]
      rw [run?, close?_eq split starts whole]
      simp [cutSegments]
  | cons letter rest ih =>
      have longer : text = before ++ ((held ++ [letter]) ++ rest) := by simp [split]
      have anew : text = (before ++ (held ++ [letter])) ++ ([] ++ rest) := by simp [split]
      have next : place + letter.utf8Size = byteSize (before ++ (held ++ [letter])) := by
        rw [byteSize_concat, stops]
      have still : place + letter.utf8Size = byteSize (before ++ (held ++ [letter]) ++ []) := by
        rw [next, List.append_nil]
      rw [run?, read?_eq split starts stops, Option.bind_eq_bind, Option.bind_some, cutSegments_cons]
      split
      · -- what was held is a segment, and behind the letter nothing is held
        rw [ih anew next still, List.nil_append, List.append_assoc, ← trimmedPieces_cons, List.append_nil]
      · split
        · rw [ih anew next still, List.nil_append, List.append_assoc, ← trimmedPieces_cons]
        · rw [ih longer starts next, List.append_assoc, List.singleton_append]

/-- The pass succeeds and gives the sentences. -/
theorem sentencesInPass?_eq (text : List Char) : sentencesInPass? text = some (sentences text) := by
  have split : text = [] ++ ([] ++ text) := rfl
  exact Pass.run?_eq split rfl rfl []

end Letterbox.Text
