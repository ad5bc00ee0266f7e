import ShaderMarkup.Text.Digits
import ShaderMarkup.Text.Reader

/-!
# Shapes of types

The text of a shader type, taken apart as far as its size depends on it.  Vectors and matrices have
a long form with the scalar in angle brackets and a short form with a letter behind the numbers.
-/

namespace ShaderMarkup

/-- The scalar types. -/
inductive Scalar where
  | f32
  | i32
  | u32
  | f16
  | i16
  | u16
  | i8
  | u8
  | bool
deriving DecidableEq

namespace Scalar

/-- All scalar types. -/
def all : List Scalar :=
  [.f32, .i32, .u32, .f16, .i16, .u16, .i8, .u8, .bool]

/-- The name of a scalar type. -/
def name : Scalar → Text
  | .f32 => "f32".toList
  | .i32 => "i32".toList
  | .u32 => "u32".toList
  | .f16 => "f16".toList
  | .i16 => "i16".toList
  | .u16 => "u16".toList
  | .i8 => "i8".toList
  | .u8 => "u8".toList
  | .bool => "bool".toList

/-- The bytes of a scalar. -/
def bytes : Scalar → Nat
  | .f32 | .i32 | .u32 => 4
  | .f16 | .i16 | .u16 => 2
  | .i8 | .u8 | .bool => 1

/-- The scalar type of a name. -/
def ofName? (name : Text) : Option Scalar :=
  all.find? fun scalar => scalar.name = name

theorem ofName?_eq_some_iff {name : Text} {scalar : Scalar} :
    ofName? name = some scalar ↔ scalar.name = name := by
  constructor
  · intro h
    simpa using List.find?_some h
  · rintro rfl
    cases scalar <;> rfl

/-- The scalar type that a letter behind a short vector or matrix name means. -/
def ofLetter? : Char → Option Scalar
  | 'f' => some .f32
  | 'i' => some .i32
  | 'u' => some .u32
  | 'h' => some .f16
  | _ => none

end Scalar

/-- The shape of a type.  The scalar of a vector or matrix is kept by name, since it may not be
one. -/
inductive TypeShape where
  | scalar (scalar : Scalar)
  | vector (width : Nat) (scalar : Text)
  | matrix (columns rows : Nat) (scalar : Text)
  | array (element : Text) (count : Option Text)
  | block (body : Text)
  | named (name : Text)
deriving DecidableEq

namespace TypeShape

/-! ## Readers -/

/-- Reads the number of components along one axis. -/
def readExtent : Reader Nat := do
  let digit ← Reader.one fun c => c == '2' || c == '3' || c == '4'
  pure (Text.natValue [digit])

/-- Reads the name of a scalar in angle brackets. -/
def readScalarArgument : Reader Text := do
  Reader.blanks
  Reader.symbol '<'
  Reader.blanks
  let name ← Reader.run1 isWord
  Reader.blanks
  Reader.symbol '>'
  pure name

/-- Reads one of the letters that stand for a scalar. -/
def readScalarLetter (letters : List Char) : Reader Text
  | c :: rest =>
      if c ∈ letters then (Scalar.ofLetter? c).map fun scalar => (scalar.name, rest) else none
  | [] => none

/-- Reads a vector type. -/
def readVector : Reader TypeShape := do
  Reader.word "vec"
  let width ← readExtent
  let scalar ← Reader.orElse readScalarArgument (readScalarLetter ['f', 'i', 'u', 'h'])
  pure (.vector width scalar)

/-- Reads a matrix type. -/
def readMatrix : Reader TypeShape := do
  Reader.word "mat"
  let columns ← readExtent
  Reader.symbol 'x'
  let rows ← readExtent
  let scalar ← Reader.orElse readScalarArgument (readScalarLetter ['f', 'h'])
  pure (.matrix columns rows scalar)

/-- Reads decimal digits with white space around them. -/
def readCount : Reader Text := do
  Reader.blanks
  let digits ← Reader.run1 isDecimal
  Reader.blanks
  pure digits

/-- The element type and the count between the angle brackets of an array.  The count is what
follows the last comma, if that is a number and something stands in front of the comma. -/
def arrayArguments? (arguments : Text) : Option TypeShape :=
  let tail := (arguments.reverse.takeWhile (· != ',')).reverse
  let element := arguments.take (arguments.length - tail.length - 1)
  match element, Reader.whole readCount tail with
  | _ :: _, some count => some (.array element (some count))
  | _, _ => if arguments.isEmpty then none else some (.array arguments none)

/-- Reads an array type. -/
def readArray : Reader TypeShape := do
  Reader.word "array"
  Reader.blanks
  Reader.symbol '<'
  fun rest =>
    if rest.getLast? = some '>' then (arrayArguments? rest.dropLast).map fun shape => (shape, [])
    else none

/-- Reads the keyword, the name and the opening brace of a struct that is written in place. -/
def readBlockHead : Reader Unit := do
  Reader.word "struct"
  Reader.blanks1
  let _ ← Reader.run1 isWord
  Reader.blanks
  Reader.symbol '\x7b'

/-- The text between the braces of a struct that is written in place.  One line end may follow the
closing brace. -/
def blockBody? (type : Text) : Option Text :=
  match readBlockHead type with
  | none => none
  | some (_, rest) =>
      let body := if rest.getLast? = some '\n' then rest.dropLast else rest
      if body.getLast? = some '\x7d' then some body.dropLast else none

/-! ## The shape of a text -/

/-- The shape of a type whose white space is collapsed. -/
def ofCollapsed (type : Text) : TypeShape :=
  match Scalar.ofName? type with
  | some base => .scalar base
  | none =>
      match [readVector, readMatrix, readArray].findSome? (Reader.whole · type) with
      | some shape => shape
      | none =>
          match blockBody? type with
          | some body => .block body
          | none => .named type

/-- The shape of a type. -/
def ofText (type : Text) : TypeShape :=
  ofCollapsed (Text.collapse type)

/-- The number of components of a scalar or a vector. -/
def componentCount? : TypeShape → Option Nat
  | .scalar _ => some 1
  | .vector width _ => some width
  | _ => none

/-- The name of the scalar that a scalar or a vector is made of. -/
def scalarName? : TypeShape → Option Text
  | .scalar base => some base.name
  | .vector _ base => some base
  | _ => none

end TypeShape

end ShaderMarkup
