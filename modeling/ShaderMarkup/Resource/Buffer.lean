import ShaderMarkup.Layout.Shape
import ShaderMarkup.Resource.Context
import ShaderMarkup.Resource.Structure
import ShaderMarkup.Source.Variable

/-!
# Buffer declarations

`@buffer(@size(n) @stride(s)) var<storage, read_write> name: array<f32>;`

The type behind a buffer is an array or a struct written in place.  A structured buffer needs a
stride, given by a decorator or inside the type, and its size is a multiple of it.
-/

namespace ShaderMarkup

/-- The type behind a buffer: an array, or a struct in place with at least one field. -/
def backingType (type : Text) : Check Text :=
  if "array".toList.isPrefixOf type then .ok type
  else
    match TypeShape.blockBody? type with
    | some body =>
        if (structFields body).entries.isEmpty then refuse .emptyBackingStruct else .ok type
    | none => refuse (.invalidBackingType type)

/-- Reads a colon and the beginning of a type that can stand behind a buffer.  What the type holds
is not looked at, only that its closing bracket follows somewhere. -/
def backingTypeMark : Reader Unit := do
  Reader.symbol ':'
  Reader.blanks
  Reader.orElse
    (do
      Reader.word "array"
      Reader.blanks
      Reader.symbol '<'
      fun rest => if '>' ∈ rest.drop 1 then some ((), rest) else none)
    (do
      TypeShape.readBlockHead
      fun rest => if '\x7d' ∈ rest then some ((), rest) else none)

/-- Reads the stride inside a structured type. -/
def structuredStride : Reader Text := do
  Reader.word "structured"
  Reader.blanks
  Reader.symbol '<'
  Reader.blanks
  let digits ← Reader.run1 isDecimal
  Reader.blanks
  Reader.symbol '>'
  pure digits

/-- The value of an expression that has to be a single positive integer. -/
def singlePositive (context : Context) (what : String) (expression : Text) : Check Int := do
  let values ← context.evaluate expression
  match values with
  | [value] => positiveInteger what.toList value
  | _ => refuse (.notSingle what.toList values)

/-- The stride of a buffer: the one of the decorator if it has an argument, else the one inside the
type, if any. -/
def bufferStride (context : Context) (decorated : Option Text) (type : Text) :
    Check (Option Int) :=
  match decorated with
  | some (c :: rest) => do
      let stride ← singlePositive context "Buffer stride" (c :: rest)
      pure (some stride)
  | _ =>
      match search (anywhere structuredStride) type with
      | none => .ok none
      | some found => do
          let digits := found.value
          if Text.maxDigits < digits.length then giveUp (.integerLength digits.length)
          else
            let stride ← positiveInteger "Buffer stride".toList (.int (Text.natValue digits))
            pure (some stride)

/-- Checks the size of a structured buffer against its stride. -/
def checkStride (type : Text) (size : Int) (stride : Option Int) : Check Unit :=
  if !Text.includes "structured".toList type then .ok ()
  else
    match stride with
    | none => refuse .missingStride
    | some stride => if size % stride = 0 then .ok () else refuse (.strideMismatch size stride)

namespace Buffer

/-- What is wrong with the structure of a buffer declaration. -/
def issues (text : Text) : List Issue :=
  (if (filledArgument? text "size").isNone then [.missingDecorator "size".toList] else [])
    ++ (if (findVariable? storageQualifier text).isNone then [.noStorageQualifier]
      else if (findVariable? storageVariable text).isNone then [.noStorageVariable]
      else [])
    ++ if occurs (anywhere backingTypeMark) text then [] else [.noBackingType]

/-- The buffer of a declaration. -/
def build (context : Context) (declaration : Declaration) : Check Resource :=
  let text := declaration.text
  match findVariable? storageVariable text, filledArgument? text "size" with
  | none, _ => refuse .noStorageVariable
  | _, none => refuse (.missingDecorator "size".toList)
  | some found, some sizeExpression => do
      let elementType ← backingType (Text.collapse found.value.type)
      let elementCount ← singlePositive context "Buffer size" sizeExpression
      let decorated := (findDecorator? text "stride".toList).bind (·.value.argument)
      let stride ← bufferStride context decorated elementType
      checkStride elementType elementCount stride
      let slot ← slotOf text
      pure (context.resource declaration found.value.name slot
        (sizeExpression :: decorated.toList)
        (.buffer {
          elementCount
          elementType
          access := found.value.access.getD "read".toList
          stride }))

end Buffer

end ShaderMarkup
