import ShaderMarkup.Layout.Size
import ShaderMarkup.Report.Journal
import ShaderMarkup.Resource.Context
import ShaderMarkup.Resource.Structure
import ShaderMarkup.Source.Variable

/-!
# Uniform declarations

```
struct Uniforms { color: vec3<f32>, };
@uniform(@color(0.05, 0.7, 0.4)) var<uniform> uniforms: Uniforms;
```

Every field of the struct needs a default value, given by a decorator named for the field.  A
decorator that names no field is reported and otherwise passed over.
-/

namespace ShaderMarkup

/-! ## Fields -/

/-- An integer value for a field of an integer type. -/
def integerField (field type : Text) (unsigned : Bool) (value : Number) : Check Number :=
  if value.isOversized then giveUp .integerRange
  else
    match value.toInt? with
    | some n => if unsigned && n < 0 then refuse (.fieldValue field type value) else .ok (.int n)
    | none => refuse (.fieldValue field type value)

/-- The values of a field, checked against its type. -/
def fieldValues (field type : Text) (values : List Number) : Check (List Number) :=
  let shape := TypeShape.ofText type
  match shape.componentCount?, shape.scalarName?.bind Scalar.ofName? with
  | some expected, some scalar =>
      if scalar ∉ [Scalar.f32, .i32, .u32] then refuse (.unsupportedField field type)
      else if values.length ≠ expected then
        refuse (.fieldWidth field type expected values.length)
      else if scalar = .f32 then .ok values
      else values.mapM (integerField field type (scalar = .u32))
  | _, _ => refuse (.unsupportedField field type)

/-- Whether a decorator gives a slot. -/
def isSlotDecorator (name : Text) : Bool :=
  name = "group".toList || name = "binding".toList

/-- The decorators that stand directly in the arguments of the declaration's decorators of a kind,
those of the slot aside. -/
def parameterDecorators (kind : ResourceKind) (text : Text) : List Decorator :=
  ((calls text).filter fun call => call.value.name = kind.decoratorName).flatMap fun call =>
    (call.value.children.map (·.value)).filter fun decorator => !isSlotDecorator decorator.name

/-- A default value as a field and an expression. -/
def fieldDefault (decorator : Decorator) : Check (Text × Text) :=
  match decorator.argument with
  | some argument =>
      if Text.blank argument then refuse (.defaultEmpty decorator.name)
      else .ok (decorator.name, argument)
  | none => refuse (.defaultEmpty decorator.name)

/-- The default values of a declaration by field. -/
def fieldDefaults (text : Text) : Check (Table Text Text) := do
  let entries ← (parameterDecorators .uniform text).mapM fieldDefault
  pure (Table.ofList entries)

/-- The values of a field and its size. -/
def fieldEntry (context : Context) (defaults : Table Text Text) (field type : Text) :
    Check (List Number × Nat) :=
  match defaults.find? field with
  | none => refuse (.defaultMissing field)
  | some expression => do
      let evaluated ← context.evaluate expression
      let values ← fieldValues field type evaluated
      let bytes ← typeSize context.structs type
      pure (values, bytes)

/-- The values of all fields in order, and the sum of their sizes. -/
def fieldEntries (context : Context) (defaults : Table Text Text) :
    List (Text × Text) → Check (List (Text × List Number) × Nat)
  | [] => .ok ([], 0)
  | (field, type) :: rest => do
      let (values, bytes) ← fieldEntry context defaults field type
      let (others, total) ← fieldEntries context defaults rest
      pure ((field, values) :: others, bytes + total)

/-! ## Declarations -/

/-- The warning that a default value belongs to no field. -/
def unusedDefault (name : Text) (line : Nat) (structType unused : Text) : LogEntry where
  level := .warning
  message :=
    "Uniform '".toList ++ name ++ "' (line ".toList ++ Text.ofNat line ++ "): @".toList ++ unused
      ++ " does not match any field of ".toList ++ structType

namespace Uniform

/-- What is wrong with the structure of a uniform declaration. -/
def issues (text : Text) : List Issue :=
  if (findVariable? uniformVariable text).isNone then [.noUniformVariable] else []

/-- The fields of a struct that has some. -/
def structFieldsOf (context : Context) (structType : Text) : Check (Table Text Text) :=
  match context.structs.find? structType with
  | none => refuse (.structNotFound structType)
  | some body =>
      let fields := structFields body
      if fields.entries.isEmpty then refuse (.structEmpty structType) else .ok fields

/-- The values of a uniform and the default values it is made from. -/
def layout (context : Context) (text structType : Text) :
    Check (Uniform × Table Text Text × Table Text Text) := do
  let members ← structFieldsOf context structType
  let defaults ← fieldDefaults text
  let (fields, byteSize) ← fieldEntries context defaults members.entries
  pure ({ structType, fields := Table.ofList fields, byteSize }, members, defaults)

/-- The uniform of a declaration, with warnings about default values that belong to no field. -/
def build (context : Context) (declaration : Declaration) : Journal Fault Resource :=
  match findVariable? uniformVariable declaration.text with
  | none => .ofExcept (refuse .noUniformVariable)
  | some found => do
      let name := found.value.name
      let (uniform, members, defaults) ←
        .ofExcept (layout context declaration.text found.value.type)
      let unused := Text.nameSet (defaults.keys.filter fun key => !members.contains key)
      .write (unused.map (unusedDefault name declaration.line found.value.type))
      let slot ← .ofExcept (slotOf declaration.text)
      pure (context.resource declaration name slot defaults.values (.uniform uniform))

end Uniform

end ShaderMarkup
