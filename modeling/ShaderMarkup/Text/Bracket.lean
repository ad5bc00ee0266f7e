import ShaderMarkup.Text.Basic

/-!
# Brackets

Nesting is counted, not matched: any opening bracket raises the depth by one and any closing
bracket lowers it by one, whatever their shapes.  `closingFrom` finds the place where a depth comes
back to zero, and `topLevelPieces` cuts a text at the separators that stand at depth zero.
-/

namespace ShaderMarkup

/-- The opening brackets. -/
def isOpening (c : Char) : Bool :=
  c == '(' || c == '[' || c == '\x7b'

/-- The closing brackets. -/
def isClosing (c : Char) : Bool :=
  c == ')' || c == ']' || c == '\x7d'

/-- The offset of the first closing character that brings the depth to zero. -/
def closingFrom (opens closes : Char → Bool) : Int → Text → Option Nat
  | _, [] => none
  | depth, c :: rest =>
      if opens c then (closingFrom opens closes (depth + 1) rest).map (· + 1)
      else if closes c then
        if depth = 1 then some 0 else (closingFrom opens closes (depth - 1) rest).map (· + 1)
      else (closingFrom opens closes depth rest).map (· + 1)

/-- The offset of the bracket that closes the one at the front of the text. -/
def closingBracket? (text : Text) : Option Nat :=
  closingFrom isOpening isClosing 0 text

/-- The offset of the brace that closes the one at the front of the text. -/
def closingBrace? (text : Text) : Option Nat :=
  closingFrom (· == '\x7b') (· == '\x7d') 0 text

/-- The characters that a scan from an index goes over.  A negative index counts from the end, and
behind the end the scan goes on with the whole text.  There is no scan from an index in front of the
text. -/
def scannedFrom? (text : Text) (index : Int) : Option Text :=
  if 0 ≤ index then some (text.drop index.toNat)
  else if index.natAbs ≤ text.length then some (text.drop (text.length - index.natAbs) ++ text)
  else none

/-- The index of what `closing` finds in a scan from `index`, if it finds anything. -/
def closingAt? (closing : Text → Option Nat) (text : Text) (index : Int) : Option (Option Int) :=
  (scannedFrom? text index).map fun scanned =>
    (closing scanned).map fun offset => index + offset

/-! ## Cutting at the top level -/

/-- The depth behind a character. -/
def depthAfter (opens closes : Char → Bool) (depth : Int) (c : Char) : Int :=
  if opens c then depth + 1 else if closes c then depth - 1 else depth

/-- The pieces between the separators at depth zero.  A closing bracket too many makes the depth
negative, and separators count again only when it is back at zero. -/
def topLevelPieces (opens closes separates : Char → Bool) : Int → Text → List Text
  | _, [] => [[]]
  | depth, c :: rest =>
      let next := depthAfter opens closes depth c
      if separates c && next == 0 then [] :: topLevelPieces opens closes separates next rest
      else Text.onFirst c (topLevelPieces opens closes separates next rest)

/-- The list without its last text if that one is empty. -/
def dropEmptyLast : List Text → List Text
  | [] => []
  | [last] => if last.isEmpty then [] else [last]
  | first :: others => first :: dropEmptyLast others

/-- Cuts a text at the separators outside all brackets.  The pieces are trimmed, and a last piece
with nothing in it is left out.  With `angle`, `<` and `>` are brackets too. -/
def splitTopLevel (separators : Text) (angle : Bool) (text : Text) : List Text :=
  let opens c := isOpening c || (angle && c == '<')
  let closes c := isClosing c || (angle && c == '>')
  dropEmptyLast ((topLevelPieces opens closes (fun c => c ∈ separators) 0 text).map Text.trim)

end ShaderMarkup
