import Letterbox.Mime.Header
import Letterbox.Mime.Word

/-!
# Phrases and identifiers

How values of headers are read byte by byte, with encoded words wherever a reader expects a word.
-/

namespace Letterbox.Mime

/-- A reader of bytes that understands encoded words in some of its states. -/
structure WordReader (σ : Type) where
  feed : σ → UInt8 → σ
  /-- Whether an encoded word may start. -/
  atWord : σ → Bool
  word : σ → List Char → σ

/-- The state after a value. The blank that carries a value on is part of the line break. -/
def WordReader.run {σ : Type} (reader : WordReader σ) (state : σ) : Bytes → σ
  | [] => state
  | byte :: rest =>
    match if byte == 0x3D && reader.atWord state then encodedWord? rest else none with
    | some (letters, size) => reader.run (reader.word state letters) (rest.drop size)
    | none =>
      if byte == 0x0A then reader.run (reader.feed state byte) (rest.drop 1)
      else reader.run (reader.feed state byte) rest
termination_by value => value.length
decreasing_by all_goals simp only [List.length_drop, List.length_cons]; omega

/-- Adds characters to a text that may not have begun. -/
def extend (text : Option (List Char)) (letters : List Char) : Option (List Char) :=
  some (text.getD [] ++ letters)

/-- Adds characters to a text, with a space between if it has begun. -/
def extendSpaced (text : Option (List Char)) (letters : List Char) : Option (List Char) :=
  match text with
  | none => some letters
  | some before => some (before ++ ' ' :: letters)

/-- Phrases that are being read: those that are done, the one under way, and its last run of bytes. -/
structure PhraseState where
  phrases : List (List Char)
  text : Option (List Char)
  run : Run
  atStart : Bool
  afterWord : Bool

namespace PhraseState

/-- The state before a value. -/
def start : PhraseState := ⟨[], none, .empty, true, false⟩

/-- Adds the run to the phrase; a space sets it off from what comes before. -/
def endRun (state : PhraseState) : PhraseState :=
  if state.run.isEmpty then state
  else
    { state with
      text := extendSpaced state.text state.run.text, run := .empty, atStart := true, afterWord := false }

/-- Ends the phrase. -/
def endPhrase (state : PhraseState) : PhraseState :=
  let ended := state.endRun
  { ended with phrases := ended.phrases ++ ended.text.toList, text := none, afterWord := false }

/-- The state after one more byte; commas end phrases if they separate. -/
def feed (separated : Bool) (state : PhraseState) (byte : UInt8) : PhraseState :=
  match Char.ofNat byte.toNat with
  | '\n' => { state.endRun with atStart := true }
  | ' ' | '\t' => { state with run := state.run.hold byte, atStart := true }
  | '\r' => { state with run := state.run.hold byte }
  | ',' =>
    if separated then state.endPhrase
    else { state with run := state.run.push byte, atStart := false }
  | _ => { state with run := state.run.push byte, atStart := false }

/-- Adds an encoded word; no space stands between two of them. -/
def word (state : PhraseState) (letters : List Char) : PhraseState :=
  let ended := state.endRun
  { ended with
    text := if ended.afterWord then extend ended.text letters else extendSpaced ended.text letters
    afterWord := true }

/-- Adds an encoded word to one of several phrases; a space sets it off from bytes on the same line
only. -/
def listedWord (state : PhraseState) (letters : List Char) : PhraseState :=
  let ended := state.endRun
  { ended with
    text := if state.run.isEmpty then extend ended.text letters else extendSpaced ended.text letters }

/-- The reader of phrases. Encoded words stand anywhere in a single one, but only behind blanks in a
list. -/
def reader (separated : Bool) : WordReader PhraseState where
  feed := feed separated
  atWord state := ! separated || state.atStart
  word := if separated then listedWord else word

end PhraseState

/-- The phrases of a value: one, or those between commas. -/
def phrasesOf (separated : Bool) (value : Bytes) : List (List Char) :=
  ((PhraseState.reader separated).run .start value).endPhrase.phrases

/-- Identifiers that are being read, and the text outside angle brackets. -/
structure IdentifierState where
  identifiers : List (List Char)
  inside : Bool
  run : Run
  stray : Run

/-- The state after one more byte. -/
def IdentifierState.feed (state : IdentifierState) (byte : UInt8) : IdentifierState :=
  let held := { state with run := state.run.hold byte, stray := state.stray.hold byte }
  match Char.ofNat byte.toNat with
  | '<' => { held with inside := true }
  | '>' =>
    if state.run.isEmpty then { held with inside := false }
    else
      ⟨state.identifiers ++ [state.run.text], false, .empty, state.stray.push byte⟩
  | ' ' | '\t' | '\r' | '\n' => held
  | _ =>
    if state.inside then { held with run := state.run.push byte }
    else { held with stray := state.stray.push byte }

/-- The identifiers of a value, or else the text outside angle brackets. -/
def identifiersOf (value : Bytes) : List (List Char) :=
  let state := value.foldl IdentifierState.feed ⟨[], false, .empty, .empty⟩
  if ! state.identifiers.isEmpty then state.identifiers
  else if state.stray.isEmpty then []
  else [state.stray.text]

end Letterbox.Mime
