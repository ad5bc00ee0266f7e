import ShaderMarkup.Resource.Texture

/-!
# Reference declarations

`@ref(node.resource) var<storage, read> name: array<f32>;`

A reference binds a resource that another shader owns.  What it points at follows from how its
variable is declared.
-/

namespace ShaderMarkup

/-- The variable of a reference: a storage variable, a uniform or a plain one, in this order. -/
def referenceVariable (text : Text) : Check Variable :=
  let shapes := [storageVariable, anyUniformVariable, anyPlainVariable]
  match shapes.findSome? fun shape => findVariable? shape text with
  | some found => .ok { found.value with type := Text.collapse found.value.type }
  | none => refuse .noVariable

/-- Reads `<` and the word of an address space. -/
def addressSpace (name : String) : Reader Unit := do
  Reader.symbol '<'
  Reader.blanks
  Reader.word name

/-- What a reference of a type points at. -/
def referenceCategory (type text : Text) : Check Category :=
  if occurs (anywhere (addressSpace "storage")) text then .ok .storage
  else if occurs (anywhere (addressSpace "uniform")) text then .ok .uniform
  else if type = "sampler".toList ∨ type = "sampler_comparison".toList then .ok .sampler
  else if Text.among textureTypes (baseType type) then .ok .texture
  else refuse (.unknownCategory type)

/-- Reads `node.resource`. -/
def referenceTarget : Reader (Text × Text) := do
  let node ← Reader.identifier
  Reader.symbol '.'
  let target ← Reader.identifier
  pure (node, target)

namespace Reference

/-- What is wrong with the structure of a reference declaration. -/
def issues (text : Text) : List Issue :=
  (if (filledArgument? text "ref").isNone then [.missingTarget] else [])
    ++ match referenceVariable text with
      | .ok _ => []
      | .error _ => [.noVariable]

/-- The reference of a declaration. -/
def build (context : Context) (declaration : Declaration) : Check Resource :=
  let text := declaration.text
  match (filledArgument? text "ref").map Text.trim with
  | none => refuse .missingTarget
  | some argument =>
      match Reader.whole referenceTarget argument with
      | none => refuse .malformedTarget
      | some (targetNode, targetResource) => do
          let declared ← referenceVariable text
          let slot ← slotOf text
          let category ← referenceCategory declared.type text
          pure (context.resource declaration declared.name slot []
            (.reference {
              targetNode
              targetResource
              type := declared.type
              category
              access := declared.access }))

end Reference

end ShaderMarkup
