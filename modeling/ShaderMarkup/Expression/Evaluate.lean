import ShaderMarkup.Expression.Syntax
import ShaderMarkup.Expression.Wildcard
import ShaderMarkup.Text.Bracket
import ShaderMarkup.Text.Segment

/-!
# Evaluating expressions

An expression is a list of segments separated by commas.  A segment that uses a wildcard of several
components is evaluated once for each component and yields that many numbers; all wildcards of a
segment that have more than one component have to agree on their number.  Altogether an expression
yields one to four finite numbers.

Two things here come from the parser generator and not from the grammar of expressions: it takes no
marker with a line break or a null character (`evaluateSegment`), and it lists the wildcards of a
tree from the deepest level up (`Expr.uses`), which decides whose fault is reported.
-/

namespace ShaderMarkup

/-- What an arithmetic operation yields, where a segment is to blame for its faults. -/
def arithmetic (segment : Text) : Except ArithmeticFault Number → Check Number
  | .ok value => .ok value
  | .error .divisionByZero => refuse (.divisionByZero segment)
  | .error .overflow => refuse (.numericOverflow segment)

/-- The value of an expression of a segment, from the values of the wildcards it uses.  The left
operand comes before the right one. -/
def Expr.eval (segment : Text) (valueOf : WildcardUse → Check Number) : Expr → Check Number
  | .number literal =>
      match literal.value? with
      | some value => .ok value
      | none => giveUp .literalLength
  | .wildcard use => valueOf use
  | .neg a => do
      let x ← a.eval segment valueOf
      pure x.neg
  | .pos a => a.eval segment valueOf
  | .add a b => do
      let x ← a.eval segment valueOf
      let y ← b.eval segment valueOf
      arithmetic segment (x.add y)
  | .sub a b => do
      let x ← a.eval segment valueOf
      let y ← b.eval segment valueOf
      arithmetic segment (x.sub y)
  | .mul a b => do
      let x ← a.eval segment valueOf
      let y ← b.eval segment valueOf
      arithmetic segment (x.mul y)
  | .div a b => do
      let x ← a.eval segment valueOf
      let y ← b.eval segment valueOf
      arithmetic segment (x.div y)

/-- The component of a vector; a single number stands for all components. -/
def componentOf (values : List Number) (component : Nat) : Number :=
  match values with
  | [value] => value
  | _ => values.getD component (.int 0)

/-- A result that is a finite number. -/
def checkFinite (segment : Text) (value : Number) : Check Number :=
  if value.isOversized then refuse (.numericOverflow segment)
  else if value.isFinite then .ok value
  else refuse (.notFinite segment value)

/-- The value of an expression for one component of the wildcards. -/
def evaluateComponent (environment : Environment) (segment : Text) (expr : Expr)
    (component : Nat) : Check Number := do
  let value ← expr.eval segment fun use => do
    let values ← use.resolve environment
    pure (componentOf values component)
  checkFinite segment value

/-- The different widths above one, in increasing order.  A wildcard has at most four components. -/
def vectorWidths (resolved : List (List Number)) : List Nat :=
  [2, 3, 4].filter fun width => resolved.any fun values => values.length = width

/-- The numbers that an expression yields for one segment. -/
def evaluateExpr (environment : Environment) (segment : Text) (expr : Expr) :
    Check (List Number) := do
  let resolved ← expr.uses.mapM fun use => use.resolve environment
  let widths := vectorWidths resolved
  if 1 < widths.length then refuse (.widthsDiffer segment widths)
  else (List.range (widths.headD 1)).mapM (evaluateComponent environment segment expr)

/-- The numbers that a segment yields.  A marker must hold neither a line break nor a null
character. -/
def evaluateSegment (environment : Environment) (marker segment : Text) : Check (List Number) :=
  if marker.contains '\n' then giveUp .markerLines
  else if marker.contains '\x00' then giveUp .markerNull
  else
    match readExpr marker segment with
    | .ok expr => evaluateExpr environment segment expr
    | .error problem => refuse (.malformed segment problem)

/-- The most numbers that an expression may yield. -/
def maxComponents : Nat := 4

/-- The one to four numbers that an expression yields. -/
def evaluate (environment : Environment) (marker expression : Text) : Check (List Number) := do
  let parts := splitTopLevel [','] false expression
  if parts.isEmpty || parts.any List.isEmpty then refuse (.emptySegment expression)
  else
    let results ← parts.mapM (evaluateSegment environment marker)
    let values := results.flatten
    if maxComponents < values.length then refuse (.tooManyComponents expression values.length)
    else pure values

/-- The names of the wildcards that an expression mentions, in increasing order. -/
def mentionedWildcards (marker expression : Text) : List Text :=
  Text.nameSet ((searchAll (anywhere (Token.readWildcard marker)) expression).map (·.value))

end ShaderMarkup
