import ShaderMarkup.Expression.Basic
import ShaderMarkup.Expression.Token
import ShaderMarkup.Report.Issue

/-!
# Reading expressions

An expression is read from left to right.  The state holds the operand that has just been read, if
any, and a stack of what waits for an operand: signs, the left sides of operators, and open
parentheses.  An operator first completes what binds at least as tightly: signs bind tighter than
`*` and `/`, these tighter than `+` and `-`, and operators of one rank group to the left.

Ranks and grouping are those of the grammar of expressions.  What a problem names is up to the
parser generator: the token that does not belong where it stands, the character that starts no
token, or the end of the text, and the column (`readFrom`).
-/

namespace ShaderMarkup

/-- What waits for an operand. -/
inductive Frame where
  | neg
  | pos
  | add (left : Expr)
  | sub (left : Expr)
  | mul (left : Expr)
  | div (left : Expr)
  | paren
deriving DecidableEq

namespace Frame

/-- What the frame makes of the operand it waits for; a parenthesis leaves it as it is. -/
def apply : Frame → Expr → Expr
  | .neg, operand => .neg operand
  | .pos, operand => .pos operand
  | .add left, operand => .add left operand
  | .sub left, operand => .sub left operand
  | .mul left, operand => .mul left operand
  | .div left, operand => .div left operand
  | .paren, operand => operand

/-- Whether the frame binds at least as tightly as `*` and `/`. -/
def isTight : Frame → Bool
  | .neg | .pos | .mul _ | .div _ => true
  | _ => false

/-- Whether the frame is anything but a parenthesis. -/
def isOperator : Frame → Bool
  | .paren => false
  | _ => true

end Frame

/-- Completes the operand with the frames on top of the stack, as long as they are chosen. -/
def complete (chosen : Frame → Bool) : Expr → List Frame → Expr × List Frame
  | operand, [] => (operand, [])
  | operand, frame :: stack =>
      if chosen frame then complete chosen (frame.apply operand) stack
      else (operand, frame :: stack)

/-- The state of reading an expression; each constructor is a position. -/
inductive ReadingState where
  | operand (stack : List Frame)
  | accessor (use : WildcardUse) (stack : List Frame)
  | operator (left : Expr) (stack : List Frame)
  | index (use : WildcardUse) (stack : List Frame)
  | indexEnd (use : WildcardUse) (number : Literal) (stack : List Frame)
deriving DecidableEq

namespace ReadingState

/-- The position of a state. -/
def position : ReadingState → Position
  | .operand _ => .operand
  | .accessor _ _ => .accessor
  | .operator _ _ => .operator
  | .index _ _ => .index
  | .indexEnd _ _ _ => .indexEnd

/-- Goes on behind a complete operand: an operator waits for its right side, and a closing
parenthesis needs an open one. -/
def continueWith (operand : Expr) (stack : List Frame) : Token → Option ReadingState
  | .plus =>
      let (left, below) := complete Frame.isOperator operand stack
      some (.operand (.add left :: below))
  | .minus =>
      let (left, below) := complete Frame.isOperator operand stack
      some (.operand (.sub left :: below))
  | .times =>
      let (left, below) := complete Frame.isTight operand stack
      some (.operand (.mul left :: below))
  | .over =>
      let (left, below) := complete Frame.isTight operand stack
      some (.operand (.div left :: below))
  | .closeParen =>
      match complete Frame.isOperator operand stack with
      | (inner, .paren :: below) => some (.operator inner below)
      | _ => none
  | _ => none

/-- Takes a token, unless it does not belong here. -/
def step : ReadingState → Token → Option ReadingState
  | .operand stack, .number literal => some (.operator (.number literal) stack)
  | .operand stack, .wildcard name => some (.accessor { name } stack)
  | .operand stack, .openParen => some (.operand (.paren :: stack))
  | .operand stack, .plus => some (.operand (.pos :: stack))
  | .operand stack, .minus => some (.operand (.neg :: stack))
  | .operand _, _ => none
  | .accessor use stack, .swizzle letters =>
      some (.operator (.wildcard { use with swizzle := some letters }) stack)
  | .accessor use stack, .openIndex => some (.index use stack)
  | .accessor use stack, token => continueWith (.wildcard use) stack token
  | .operator left stack, token => continueWith left stack token
  | .index use stack, .number literal => some (.indexEnd use literal stack)
  | .index _ _, _ => none
  | .indexEnd use number stack, .closeIndex =>
      some (.accessor { use with indices := use.indices ++ [number] } stack)
  | .indexEnd _ _ _, _ => none

/-- The expression that an operand completes when nothing follows; an open parenthesis leaves
none. -/
def close (operand : Expr) (stack : List Frame) : Option Expr :=
  match complete Frame.isOperator operand stack with
  | (expr, []) => some expr
  | _ => none

/-- The expression of a state when nothing follows. -/
def finish : ReadingState → Option Expr
  | .accessor use stack => close (.wildcard use) stack
  | .operator left stack => close left stack
  | _ => none

end ReadingState

/-- The column behind a character. -/
def columnAfter (column : Nat) (c : Char) : Nat :=
  if c = '\n' then 1 else column + 1

/-- The text in front of the rest. -/
def written (text rest : Text) : Text :=
  text.take (text.length - rest.length)

/-- Reads the expression from a state on, behind the next `skip` characters, which belong to the
token or the run of white space that was read last. -/
def readFrom (marker : Text) : Nat → ReadingState → Nat → Text → Except SyntaxProblem Expr
  | _, state, _, [] =>
      match state.finish with
      | some expr => .ok expr
      | none => .error .ended
  | skip + 1, state, column, c :: rest => readFrom marker skip state (columnAfter column c) rest
  | 0, state, column, c :: rest =>
      match Token.readAt marker state.position (c :: rest) with
      | some (token, remaining) =>
          match state.step token with
          | some next =>
              readFrom marker ((c :: rest).length - remaining.length - 1) next
                (columnAfter column c) rest
          | none => .error (.token (written (c :: rest) remaining) column)
      | none =>
          if isTokenGap c then
            readFrom marker (rest.takeWhile isTokenGap).length state (columnAfter column c) rest
          else
            match Token.readAny marker (c :: rest) with
            | some (_, remaining) => .error (.token (written (c :: rest) remaining) column)
            | none => .error (.character c column)

/-- Reads one segment of an expression, in which the marker announces wildcards. -/
def readExpr (marker segment : Text) : Except SyntaxProblem Expr :=
  readFrom marker 0 (.operand []) 1 segment

end ShaderMarkup
