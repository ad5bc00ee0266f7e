import ShaderMarkup.Resource.Context
import ShaderMarkup.Resource.Structure
import ShaderMarkup.Source.Variable

/-!
# Texture declarations

`@texture(@size(...) @format(...)) var name: texture_2d<f32>;`

The type says how many size values are needed.  Missing ones repeat the last value, except for
array textures, whose number of layers has to be given.
-/

namespace ShaderMarkup

/-- The texture types, without their template arguments. -/
def textureTypes : List Text :=
  ["texture_1d".toList, "texture_2d".toList, "texture_2d_array".toList, "texture_3d".toList,
   "texture_cube".toList, "texture_cube_array".toList, "texture_multisampled_2d".toList,
   "texture_storage_1d".toList, "texture_storage_2d".toList,
   "texture_storage_2d_array".toList, "texture_storage_3d".toList,
   "texture_depth_2d".toList, "texture_depth_2d_array".toList, "texture_depth_cube".toList,
   "texture_depth_cube_array".toList, "texture_depth_multisampled_2d".toList]

/-- A type without its template arguments. -/
def baseType (type : Text) : Text :=
  Text.trim (type.takeWhile (· != '<'))

/-- Whether a texture type is an array of layers. -/
def isArrayTexture (type : Text) : Bool :=
  Text.includes "array".toList (baseType type)

/-- The number of size values that a texture type needs. -/
def textureDimensions (type : Text) : Nat :=
  if Text.endsWith (baseType type) "_1d".toList then 1
  else if Text.endsWith (baseType type) "_3d".toList || isArrayTexture type then 3
  else 2

/-- Fills size values up to a number by repeating the last one. -/
def repeatLast (values : List Number) (count : Nat) : Check (List Number) :=
  match values.getLast? with
  | none => giveUp .noSizeValue
  | some last => .ok (values ++ List.replicate (count - values.length) last)

/-- As many size values as the type needs. -/
def fitSize (values : List Number) (type : Text) : Check (List Number) :=
  let expected := textureDimensions type
  if expected < values.length then refuse (.tooManyDimensions (baseType type) expected values)
  else if values.length < expected then
    if isArrayTexture type then refuse (.tooFewDimensions (baseType type) expected values)
    else repeatLast values expected
  else .ok values

/-- The extents that size values give, counted from a position for the messages. -/
def extentsFrom : Nat → List Number → Check (List Int)
  | _, [] => .ok []
  | position, value :: rest => do
      let extent ←
        positiveInteger ("Texture size at position ".toList ++ Text.ofNat position) value
      let others ← extentsFrom (position + 1) rest
      pure (extent :: others)

/-- The extents of a texture from the values of its size. -/
def textureSize (values : List Number) (type : Text) : Check (List Int) := do
  let fitted ← fitSize values type
  extentsFrom 1 fitted

/-- Whether a text is a format: letters and digits, with hyphens and underscores among them. -/
def isTextureFormat (format : Text) : Bool :=
  let name := format.filter fun c => c != '-' && c != '_'
  !name.isEmpty && name.all isAlphanumeric

namespace Texture

/-- What is wrong with the structure of a texture declaration. -/
def issues (text : Text) : List Issue :=
  (["size", "format"].filterMap fun name =>
      if (filledArgument? text name).isNone then some (.missingDecorator name.toList) else none)
    ++ if (findVariable? textureVariable text).isNone then [.noTextureVariable] else []

/-- The texture of a declaration. -/
def build (context : Context) (declaration : Declaration) : Check Resource :=
  let text := declaration.text
  match findVariable? textureVariable text, filledArgument? text "size",
      filledArgument? text "format" with
  | none, _, _ => refuse .noTextureVariable
  | _, none, _ => refuse (.missingDecorator "size".toList)
  | _, _, none => refuse (.missingDecorator "format".toList)
  | some found, some sizeExpression, some formatArgument => do
      let type := Text.collapse found.value.type
      if !Text.among textureTypes (baseType type) then refuse (.invalidTextureType (baseType type))
      else
        let values ← context.evaluate sizeExpression
        let size ← textureSize values type
        let format := Text.trim formatArgument
        if !isTextureFormat format then refuse (.invalidTextureFormat format)
        else
          let slot ← slotOf text
          pure (context.resource declaration found.value.name slot [sizeExpression]
            (.texture { size, format, type }))

end Texture

end ShaderMarkup
