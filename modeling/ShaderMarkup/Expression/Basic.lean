import ShaderMarkup.Number.Literal

/-!
# Expressions

The tree of an arithmetic expression.  Its leaves are number literals and uses of wildcards; a
wildcard may be followed by indices and then by a swizzle that picks components.  Parentheses leave
no trace in the tree.
-/

namespace ShaderMarkup

/-- A wildcard with what picks components from it: the indices as written, and the letters of the
swizzle. -/
structure WildcardUse where
  name : Text
  indices : List Literal := []
  swizzle : Option Text := none
deriving DecidableEq

/-- An arithmetic expression. -/
inductive Expr where
  | number (literal : Literal)
  | wildcard (use : WildcardUse)
  | neg (operand : Expr)
  | pos (operand : Expr)
  | add (left right : Expr)
  | sub (left right : Expr)
  | mul (left right : Expr)
  | div (left right : Expr)
deriving DecidableEq

namespace Expr

/-- The number of operators on the longest way from the root to a leaf. -/
def height : Expr → Nat
  | .number _ | .wildcard _ => 0
  | .neg a | .pos a => a.height + 1
  | .add a b | .sub a b | .mul a b | .div a b => max a.height b.height + 1

/-- The uses of wildcards below exactly `level` operators, from left to right. -/
def usesAt : Nat → Expr → List WildcardUse
  | 0, .wildcard use => [use]
  | level + 1, .neg a => usesAt level a
  | level + 1, .pos a => usesAt level a
  | level + 1, .add a b => usesAt level a ++ usesAt level b
  | level + 1, .sub a b => usesAt level a ++ usesAt level b
  | level + 1, .mul a b => usesAt level a ++ usesAt level b
  | level + 1, .div a b => usesAt level a ++ usesAt level b
  | _, _ => []

/-- The uses of wildcards in the order in which they are resolved: the deepest first, and those of
one level from left to right. -/
def uses (expr : Expr) : List WildcardUse :=
  (List.range (expr.height + 1)).reverse.flatMap fun level => expr.usesAt level

end Expr

end ShaderMarkup
