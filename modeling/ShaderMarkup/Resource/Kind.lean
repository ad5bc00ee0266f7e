import ShaderMarkup.Text.Basic

/-!
# Kinds of resources

The five kinds of declarations, each announced by a decorator of its own.
-/

namespace ShaderMarkup

/-- The kinds of resources a shader can declare. -/
inductive ResourceKind where
  | texture
  | buffer
  | uniform
  | sampler
  | reference
deriving DecidableEq

namespace ResourceKind

/-- The kinds in the order in which their resources are listed. -/
def all : List ResourceKind :=
  [.texture, .buffer, .uniform, .sampler, .reference]

/-- The name of the decorator that announces a declaration of the kind. -/
def decoratorName : ResourceKind → Text
  | .texture => "texture".toList
  | .buffer => "buffer".toList
  | .uniform => "uniform".toList
  | .sampler => "sampler".toList
  | .reference => "ref".toList

/-- The kind that a decorator announces. -/
def ofDecorator? (name : Text) : Option ResourceKind :=
  all.find? fun kind => kind.decoratorName = name

/-- The word for the kind in messages. -/
def label : ResourceKind → String
  | .texture => "Texture"
  | .buffer => "Buffer"
  | .uniform => "Uniform"
  | .sampler => "Sampler"
  | .reference => "Reference"

end ResourceKind

end ShaderMarkup
