import Letterbox.Text.LowerCase
import Letterbox.Text.Sentence

/-!
# Analysis of texts

What an index finds of a text is the list of its tokens. Under substring analysis the tokens are the
pieces of the lower-cased sentences whose length lies between two bounds, so that a piece of a
sentence is found as the start of some token. Under word analysis they are the lower-cased words. A
value is looked up through query terms, each of which must start some token.
-/

namespace Letterbox

open Text

/-- A searchable piece of a text: its bytes `start ≤ b < stop` and its place among the tokens. -/
structure Token where
  text : List Char
  start : Nat
  stop : Nat
  position : Nat
  span : Nat := 1
deriving DecidableEq, Repr

/-- How texts are cut into tokens. -/
inductive Analysis where
  | substrings (shortest longest : Nat)
  | words
deriving DecidableEq, Repr

/-- The token at a piece. -/
def Token.ofPiece (position : Nat) (piece : Piece) : Token where
  text := piece.text
  start := piece.offset
  stop := piece.stop
  position := position

/-- The pieces with lengths from `shortest` to `longest` that start a text. -/
def leadingPieces (shortest longest : Nat) (piece : Piece) : List Piece :=
  (List.range' shortest (min longest piece.text.length + 1 - shortest)).map fun length =>
    ⟨piece.offset, piece.text.take length⟩

/-- The tokens of a piece at each of its characters in turn, longer ones later. -/
def gramTokens (shortest longest offset position : Nat) : List Char → List Token
  | [] => []
  | letter :: rest =>
    (leadingPieces shortest longest ⟨offset, letter :: rest⟩).map (Token.ofPiece position)
      ++ gramTokens shortest longest (offset + letter.utf8Size) (position + 1) rest

/--
The tokens of consecutive sentences. A sentence below the shortest length is a token as a whole and
takes one position; any other takes one position for each of its characters.
-/
def sentenceTokens (shortest longest position : Nat) : List Piece → List Token
  | [] => []
  | sentence :: rest =>
    if sentence.text.length < shortest then
      Token.ofPiece position sentence :: sentenceTokens shortest longest (position + 1) rest
    else
      gramTokens shortest longest sentence.offset position sentence.text
        ++ sentenceTokens shortest longest (position + sentence.text.length) rest

/-- The tokens of consecutive words: each word is lower-cased by itself. -/
def wordTokens (position : Nat) : List Piece → List Token
  | [] => []
  | word :: rest =>
    { Token.ofPiece position word with text := lower word.text } :: wordTokens (position + 1) rest

/-- The tokens of a text. Substring tokens are placed in the lower-cased text. -/
def Analysis.tokens (analysis : Analysis) (text : List Char) : List Token :=
  match analysis with
  | .substrings shortest longest => sentenceTokens shortest longest 0 (sentences (lower text))
  | .words => wordTokens 0 (Text.words text)

/--
Windows of `longest` characters that cover a value from the character `start` on. Neighbours share a
character where the length allows it, and the last window ends with the value.
-/
def windowsFrom (longest : Nat) (value : List Char) (start : Nat) : List (List Char) :=
  if start + longest < value.length then
    (value.drop start).take longest :: windowsFrom longest value (start + max (longest - 1) 1)
  else
    [value.drop (value.length - longest)]
termination_by value.length - start
decreasing_by omega

/-- The terms that must each start a token of a text for the text to be found under a value. -/
def Analysis.queryTerms (analysis : Analysis) (value : List Char) : List (List Char) :=
  match analysis with
  | .substrings _ longest =>
    let lowered := lower value
    if lowered.length ≤ longest then [lowered] else windowsFrom longest lowered 0
  | .words =>
    match Text.words value with
    | [] => [[]]
    | found => found.map fun word => lower word.text

/-- What every token of a header with this name starts with: the trimmed name in lower case and a colon. -/
def headerScope (name : List Char) : List Char :=
  lower (trim name) ++ [':']

/-- A header line cut at its first colon; the offset is that of the value. -/
def cutHeaderLine (line : List Char) : List Char × Piece :=
  let name := line.takeWhile (· ≠ ':')
  match line.dropWhile (· ≠ ':') with
  | [] => (name, ⟨byteSize line, []⟩)
  | colon :: value => (name, ⟨byteSize name + colon.utf8Size, value⟩)

/-- A token of a header's value: it starts with the scope and stands behind the name. -/
def Token.inHeader (scope : List Char) (offset : Nat) (token : Token) : Token :=
  { token with
    text := scope ++ token.text
    start := offset + token.start
    stop := offset + token.stop
    position := token.position + 1 }

/-- The tokens of a header line: the bare scope, then those of the value, each behind the scope. -/
def Analysis.headerTokens (analysis : Analysis) (line : List Char) : List Token :=
  let (name, value) := cutHeaderLine line
  let scope := headerScope name
  ⟨scope, 0, value.offset, 0, 1⟩
    :: (analysis.tokens value.text).map (Token.inHeader scope value.offset)

end Letterbox
