import ShaderMarkup.Text.Basic

/-!
# Entry points

A compute shader says how many threads run and in which groups; a fragment shader says where it
draws.
-/

namespace ShaderMarkup

/-- The kinds of shaders. -/
inductive ShaderKind where
  | compute
  | fragment
  | resource
deriving DecidableEq

namespace ShaderKind

/-- All kinds of shaders. -/
def all : List ShaderKind :=
  [.compute, .fragment, .resource]

/-- The word for a kind of shader. -/
def name : ShaderKind → Text
  | .compute => "compute".toList
  | .fragment => "fragment".toList
  | .resource => "resource".toList

end ShaderKind

/-- A size along three axes. -/
structure Extent where
  x : Int
  y : Int
  z : Int
deriving DecidableEq

/-- The threads of a compute shader: over how many dimensions they are counted, the size of a
workgroup, and their number along each axis. -/
structure ComputeEntry where
  dimensionality : Int
  workgroupSize : Extent
  threadCount : Extent
deriving DecidableEq

/-- Where a fragment shader draws: a texture, with another one for resolved samples if given, or
the canvas, with its width and height. -/
structure FragmentEntry where
  targetView : Text
  resolveTarget : Option Text := none
  isCanvas : Bool := false
  canvasSize : Option (Int × Int) := none
deriving DecidableEq

/-- The entry point of a shader. -/
inductive EntryPoint where
  | compute (entry : ComputeEntry)
  | fragment (entry : FragmentEntry)
deriving DecidableEq

end ShaderMarkup
