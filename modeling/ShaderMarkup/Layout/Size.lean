import ShaderMarkup.Layout.Shape
import ShaderMarkup.Report.Fault
import ShaderMarkup.Source.Struct

/-!
# Sizes of types

The size of a type is the sum of the sizes of its components, with no padding between them.  An
array without a count counts as one element.
-/

namespace ShaderMarkup

/-- The bytes of a scalar given by name. -/
def scalarSize (name : Text) : Check Nat :=
  match Scalar.ofName? name with
  | some scalar => .ok scalar.bytes
  | none => refuse (.unknownScalar name)

/-- The number of elements of an array. -/
def elementCount : Option Text → Check Nat
  | none => .ok 1
  | some digits =>
      if Text.maxDigits < digits.length then giveUp (.integerLength digits.length)
      else .ok (Text.natValue digits)

/-- The sum of the sizes of types. -/
def totalSize (size : Text → Check Nat) : List Text → Check Nat
  | [] => .ok 0
  | type :: rest => do
      let first ← size type
      let others ← totalSize size rest
      pure (first + others)

/-- The size of a type that nests at most `depth` deep. -/
def typeSizeWithin (structs : StructTable) : Nat → Text → Check Nat
  | 0, _ => giveUp .circularType
  | depth + 1, type =>
      let structSize body := totalSize (typeSizeWithin structs depth) (structFields body).values
      match TypeShape.ofText type with
      | .scalar scalar => .ok scalar.bytes
      | .vector width scalar => do
          let bytes ← scalarSize scalar
          pure (width * bytes)
      | .matrix columns rows scalar => do
          let bytes ← scalarSize scalar
          pure (columns * rows * bytes)
      | .array element count => do
          let count ← elementCount count
          let bytes ← typeSizeWithin structs depth element
          pure (bytes * count)
      | .block body => structSize body
      | .named name =>
          match structs.find? name with
          | some body => structSize body
          | none => refuse (.unknownType name)

/-- A depth that no type reaches unless its structs run in a circle: every array is shorter than
the text it stands in, and no struct is entered twice. -/
def nestingBound (structs : StructTable) (type : Text) : Nat :=
  structs.values.foldl (fun total body => total + body.length + 1) (type.length + 1)

/-- The size of a type, where `structs` holds the bodies of the named structs. -/
def typeSize (structs : StructTable) (type : Text) : Check Nat :=
  typeSizeWithin structs (nestingBound structs type) type

end ShaderMarkup
