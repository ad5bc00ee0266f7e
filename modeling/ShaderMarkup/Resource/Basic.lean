import ShaderMarkup.Number.Basic
import ShaderMarkup.Resource.Kind
import ShaderMarkup.Table

/-!
# Resources

A resource is what a declaration asks the graphics device for: a texture, a buffer, a uniform, a
sampler, or a resource of another shader that is referred to.  All kinds share a name, a slot and a
few facts about the declaration; the rest depends on the kind and stands in `Detail`.
-/

namespace ShaderMarkup

/-! ## Textures, buffers and uniforms -/

/-- A texture: its extent along each dimension, the format of its texels and its shader type. -/
structure Texture where
  size : List Int
  format : Text
  type : Text
deriving DecidableEq

/-- A storage buffer.  The access is a word; a declaration can only say `read` or `read_write`. -/
structure Buffer where
  elementCount : Int
  elementType : Text
  access : Text
  stride : Option Int := none
deriving DecidableEq

/-- A uniform: the struct that lays it out, the values of its fields in the order of the struct,
and the sum of the sizes of the fields. -/
structure Uniform where
  structType : Text
  fields : Table Text (List Number)
  byteSize : Int

/-! ## Samplers -/

/-- A sampler; every parameter may be left open.  Modes, filters and the comparison are words; a
declaration can only choose from the words of its parameter. -/
structure Sampler where
  addressModeU : Option Text := none
  addressModeV : Option Text := none
  addressModeW : Option Text := none
  magFilter : Option Text := none
  minFilter : Option Text := none
  mipmapFilter : Option Text := none
  lodMinClamp : Option Number := none
  lodMaxClamp : Option Number := none
  compare : Option Text := none
  maxAnisotropy : Option Number := none

/-! ## References -/

/-- What a reference points at. -/
inductive Category where
  | texture
  | storage
  | uniform
  | sampler
deriving DecidableEq

namespace Category

/-- All categories. -/
def all : List Category :=
  [.texture, .storage, .uniform, .sampler]

/-- The word for a category. -/
def name : Category → Text
  | .texture => "texture".toList
  | .storage => "storage".toList
  | .uniform => "uniform".toList
  | .sampler => "sampler".toList

end Category

/-- A resource that another shader owns. -/
structure Reference where
  targetNode : Text
  targetResource : Text
  type : Text
  category : Category
  access : Option Text := none
deriving DecidableEq

/-! ## All kinds -/

/-- What a resource is, beyond what all kinds share. -/
inductive Detail where
  | texture (texture : Texture)
  | buffer (buffer : Buffer)
  | uniform (uniform : Uniform)
  | sampler (sampler : Sampler)
  | reference (reference : Reference)

/-- The kind that a detail belongs to. -/
def Detail.kind : Detail → ResourceKind
  | .texture _ => .texture
  | .buffer _ => .buffer
  | .uniform _ => .uniform
  | .sampler _ => .sampler
  | .reference _ => .reference

/-- A resource.  The binding is missing until a slot is allocated.  The wildcards that the
declaration depends on stand in increasing order, each once. -/
structure Resource where
  name : Text
  group : Int := 0
  binding : Option Int := none
  declarationIndex : Int := 0
  usedInBody : Bool := false
  wildcards : List Text := []
  detail : Detail

namespace Resource

/-- The kind of a resource. -/
def kind (resource : Resource) : ResourceKind :=
  resource.detail.kind

/-- The binding as a number, where -1 stands for a missing one. -/
def bindingNumber (resource : Resource) : Int :=
  resource.binding.getD (-1)

end Resource

end ShaderMarkup
