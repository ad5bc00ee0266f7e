import ShaderMarkup.Text.Bracket
import ShaderMarkup.Text.Segment

/-!
# Functions

A function runs from its `fn` keyword to the brace that closes the first block behind its name, or
to the end of the text where that brace is missing.
-/

namespace ShaderMarkup

/-- Reads up to the brace that closes the first block; to the end where it is missing. -/
def throughBlock : Reader Unit :=
  fun text =>
    match text.dropWhile (· != '\x7b') with
    | [] => none
    | block =>
        match closingBrace? block with
        | some offset => some ((), block.drop (offset + 1))
        | none => some ((), [])

/-- Reads the keyword and the name of a function. -/
def functionHeader : Reader Unit := do
  Reader.word "fn"
  Reader.blanks1
  let _ ← Reader.identifier
  pure ()

/-- Reads a function with its body. -/
def functionText : Reader Unit := do
  functionHeader
  throughBlock

/-- The text of every function, from its keyword to its closing brace. -/
def functionBodies (code : Text) : List Text :=
  (segments (atWordStart functionText) code).filterMap fun segment =>
    match segment with
    | .plain _ => none
    | .hit _ written => some written

/-! ## Usage -/

/-- Whether exactly one of two neighbours is a word character. -/
def isBoundary (before after : Option Char) : Bool :=
  before.any isWord != after.any isWord

/-- Reads the name where a word boundary stands on both its sides. -/
def wholeWord (name : Text) : Recognizer Unit :=
  fun before text =>
    let rest := text.drop name.length
    if name.isPrefixOf text && isBoundary before text.head?
        && isBoundary (name.getLast?.or before) rest.head? then
      some ((), rest)
    else none

/-- Whether a function mentions the name as a whole word. -/
def isUsedIn (bodies : List Text) (name : Text) : Bool :=
  bodies.any (occurs (wholeWord name))

end ShaderMarkup
