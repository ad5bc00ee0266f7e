import ShaderMarkup.Number.Literal

/-!
# Tokens of expressions

Which tokens are sought depends on what the expression so far can go on with.  That is a matter of
five positions.  At a position the readers are tried in an order that the marker of wildcards fixes,
and the first one that yields a token which fits the position decides.

White space between tokens is passed over in whole runs.  It comes behind all tokens, so a wildcard
whose marker starts with white space is found in front of the run that it would belong to.

The grammar of expressions fixes how numbers, wildcards, swizzles and operators are spelled and that
white space may stand between them.  The rest are rules of the parser generator that the grammar is
written for:

* only tokens which fit the position are sought (`Token.fits`, `Token.readAt`);
* those with longer search patterns are tried first (`Token.readers`), so the length of the marker
  in such a pattern counts (`Token.markerWeight`, `Token.maxLightWeight`);
* the marker is written into a search pattern and read back from it, which changes some characters
  (`Token.soughtMarker`, `Token.readUse`);
* the characters that count as white space (`isTokenGap`).
-/

namespace ShaderMarkup

/-- A token of an expression.  A wildcard stands without its marker, a swizzle without its point. -/
inductive Token where
  | number (literal : Literal)
  | wildcard (name : Text)
  | swizzle (letters : Text)
  | openParen
  | closeParen
  | openIndex
  | closeIndex
  | plus
  | minus
  | times
  | over
deriving DecidableEq

/-- What an expression can go on with. -/
inductive Position where
  /-- An operand: at the start, after an opening parenthesis and after an operator. -/
  | operand
  /-- An accessor or an operator: after a wildcard or one of its indices. -/
  | accessor
  /-- An operator: after any other operand. -/
  | operator
  /-- The number of an index. -/
  | index
  /-- The bracket that closes an index. -/
  | indexEnd
deriving DecidableEq

namespace Token

/-- Whether the token is a binary operator or a closing parenthesis. -/
def continues : Token → Bool
  | .plus | .minus | .times | .over | .closeParen => true
  | _ => false

/-- Whether a token fits a position. -/
def fits : Position → Token → Bool
  | .operand, .number _ | .operand, .wildcard _ | .operand, .openParen
  | .operand, .plus | .operand, .minus => true
  | .operand, _ => false
  | .accessor, .swizzle _ | .accessor, .openIndex => true
  | .accessor, token => token.continues
  | .operator, token => token.continues
  | .index, .number _ => true
  | .index, _ => false
  | .indexEnd, .closeIndex => true
  | .indexEnd, _ => false

/-! ## Reading -/

/-- Reads a wildcard: the marker and an identifier. -/
def readWildcard (marker : Text) : Reader Text := do
  Reader.exactly marker
  Reader.identifier

/-- The text that a marker is sought as in an expression.  A carriage return is sought as a line
break, and a backslash right before a double quote is not sought. -/
def soughtMarker : Text → Text
  | [] => []
  | '\r' :: rest => '\n' :: soughtMarker rest
  | '\\' :: '"' :: rest => '"' :: soughtMarker rest
  | c :: rest => c :: soughtMarker rest

/-- Reads the use of a wildcard.  The name is what stands behind as many characters as the marker
has. -/
def readUse (marker : Text) : Reader Text := do
  let name ← readWildcard (soughtMarker marker)
  pure (name.drop (marker.length - (soughtMarker marker).length))

/-- The letters that name the components of a vector. -/
def isComponentLetter (c : Char) : Bool :=
  c ∈ ['x', 'y', 'z', 'w', 'r', 'g', 'b', 'a']

/-- Reads a swizzle: a point and one to four component letters with no word character behind. -/
def readSwizzle : Reader Text := do
  Reader.symbol '.'
  let letters ← Reader.run1 isWord
  if letters.length ≤ 4 ∧ letters.all isComponentLetter then pure letters
  else fun _ => none

/-- Reads a bracket or an operator. -/
def readPunctuation : Reader Token
  | '(' :: rest => some (.openParen, rest)
  | ')' :: rest => some (.closeParen, rest)
  | '[' :: rest => some (.openIndex, rest)
  | ']' :: rest => some (.closeIndex, rest)
  | '+' :: rest => some (.plus, rest)
  | '-' :: rest => some (.minus, rest)
  | '*' :: rest => some (.times, rest)
  | '/' :: rest => some (.over, rest)
  | _ => none

/-- The characters that weigh double in a marker: those with a meaning of their own in search
patterns. -/
def isHeavy (c : Char) : Bool :=
  "()[]\x7b\x7d?*+-|^$\\.&~# \t\n\r\x0b\x0c/".toList.contains c

/-- The weight of a marker. -/
def markerWeight (marker : Text) : Nat :=
  (soughtMarker marker).length + marker.countP isHeavy

/-- The weight up to which numbers are sought before wildcards. -/
def maxLightWeight : Nat := 23

/-- The readers of tokens in the order in which they are tried.  Numbers come before wildcards,
unless the marker is heavy. -/
def readers (marker : Text) : List (Reader Token) :=
  let number : Reader Token := do let literal ← Literal.read; pure (.number literal)
  let wildcard : Reader Token := do let name ← readUse marker; pure (.wildcard name)
  let swizzle : Reader Token := do let letters ← readSwizzle; pure (.swizzle letters)
  if markerWeight marker ≤ maxLightWeight then [number, wildcard, swizzle, readPunctuation]
  else [wildcard, number, swizzle, readPunctuation]

/-- Reads the first token that fits the position. -/
def readAt (marker : Text) (position : Position) : Reader Token :=
  fun text =>
    (readers marker).findSome? fun reader =>
      match reader text with
      | some (token, rest) => if token.fits position then some (token, rest) else none
      | none => none

/-- Reads the first token of any sort. -/
def readAny (marker : Text) : Reader Token :=
  fun text => (readers marker).findSome? fun reader => reader text

end Token

/-- The white space that may stand between tokens. -/
def isTokenGap (c : Char) : Bool :=
  c == ' ' || c == '\t' || c == '\x0c' || c == '\r' || c == '\n'

end ShaderMarkup
