import ShaderMarkup.Expression.Basic
import ShaderMarkup.Report.Fault

/-!
# Wildcards

A wildcard is a named vector of one to four numbers that expressions refer to.  Two indices address
a vector of one or four components as a square matrix, row by row; one index picks a component; a
swizzle then picks components by their letters.
-/

namespace ShaderMarkup

/-- A named vector of one to four numbers. -/
structure Wildcard where
  name : Text
  values : List Number
  width_pos : 1 ≤ values.length
  width_le : values.length ≤ 4

namespace Wildcard

/-- The wildcard of a name and its components. -/
def ofValues (name : Text) (values : List Number) : Except Abort Wildcard :=
  if h : 1 ≤ values.length ∧ values.length ≤ 4 then .ok ⟨name, values, h.1, h.2⟩
  else .error (.wildcardWidth values.length)

/-- The shader type of a wildcard. -/
def type (wildcard : Wildcard) : Text :=
  if wildcard.values.length = 1 then "f32".toList
  else "vec".toList ++ Text.ofNat wildcard.values.length ++ "<f32>".toList

end Wildcard

/-- The wildcards that an expression may use.  Of several with one name the last counts. -/
abbrev Environment := List Wildcard

/-- The components that a name stands for. -/
def Environment.lookup? (environment : Environment) (name : Text) : Option (List Number) :=
  (environment.reverse.find? fun wildcard => wildcard.name = name).map (·.values)

/-! ## Accessors -/

/-- The place that an index names. -/
def indexValue (literal : Literal) : Check Nat :=
  if !literal.isInteger then refuse (.indexNotInteger literal.text)
  else if Text.maxDigits < literal.whole.length then
    giveUp (.integerLength literal.whole.length)
  else .ok (Text.natValue literal.whole)

/-- The side of the square matrix that has this many components. -/
def squareSide? (width : Nat) : Option Nat :=
  (List.range (width + 1)).find? fun side => side * side = width

/-- The components that the indices pick. -/
def pickIndexed (name : Text) (values : List Number) : List Nat → Check (List Number)
  | [] => .ok values
  | [index] =>
      match values[index]? with
      | some value => .ok [value]
      | none => refuse (.indexOutOfRange name index)
  | [row, column] =>
      match squareSide? values.length with
      | none => refuse (.notSquare name values.length)
      | some side =>
          if row < side ∧ column < side then
            match values[row * side + column]? with
            | some value => .ok [value]
            | none => refuse (.cellOutOfRange name row column)
          else refuse (.cellOutOfRange name row column)
  | _ => refuse (.tooManyIndices name)

/-- The place of the component that a letter names. -/
def componentIndex (letter : Char) : Nat :=
  match letter with
  | 'x' | 'r' => 0
  | 'y' | 'g' => 1
  | 'z' | 'b' => 2
  | _ => 3

/-- The components that the letters pick. -/
def pickLetters (name : Text) (values : List Number) (letters : Text) : Check (List Number) :=
  letters.mapM fun letter =>
    match values[componentIndex letter]? with
    | some value => .ok value
    | none => refuse (.swizzleOutOfRange name letter values.length)

/-- The components that a use of a wildcard stands for. -/
def WildcardUse.resolve (environment : Environment) (use : WildcardUse) : Check (List Number) :=
  match environment.lookup? use.name with
  | none => refuse (.unknownWildcard use.name)
  | some values => do
      let indices ← use.indices.mapM indexValue
      let picked ← pickIndexed use.name values indices
      match use.swizzle with
      | none => pure picked
      | some letters => pickLetters use.name picked letters

end ShaderMarkup
