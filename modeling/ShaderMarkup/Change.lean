import ShaderMarkup.Shader

/-!
# Changes between two shaders

Resources of two shaders correspond when they agree on name, group and kind.  One that differs in
nothing but its binding is reordered; one that differs in anything else is removed and added again.
Numbers are compared by value, and the fields of a uniform without regard to their order.
-/

namespace ShaderMarkup

/-! ## Identity and equality -/

/-- What a resource is recognised by in another version of the shader. -/
structure Identity where
  name : Text
  group : Int
  kind : ResourceKind
deriving DecidableEq

/-- The identity of a resource. -/
def Resource.identity (resource : Resource) : Identity :=
  ⟨resource.name, resource.group, resource.kind⟩

/-- Equality of two lists of numbers by value. -/
def sameNumbers : List Number → List Number → Bool
  | [], [] => true
  | a :: as, b :: bs => a.same b && sameNumbers as bs
  | _, _ => false

/-- Equality of two numbers by value, where either may be missing. -/
def sameNumber? : Option Number → Option Number → Bool
  | none, none => true
  | some a, some b => a.same b
  | _, _ => false

/-- Whether two tables hold the same keys with the same numbers, in any order. -/
def sameFields (a b : Table Text (List Number)) : Bool :=
  a.entries.length == b.entries.length
    && a.entries.all fun entry => (b.find? entry.1).any (sameNumbers entry.2)

namespace Uniform

/-- Equality of uniforms. -/
def same (a b : Uniform) : Bool :=
  a.structType == b.structType && sameFields a.fields b.fields && a.byteSize == b.byteSize

end Uniform

namespace Sampler

/-- Equality of samplers. -/
def same (a b : Sampler) : Bool :=
  a.addressModeU == b.addressModeU && a.addressModeV == b.addressModeV
    && a.addressModeW == b.addressModeW && a.magFilter == b.magFilter
    && a.minFilter == b.minFilter && a.mipmapFilter == b.mipmapFilter
    && sameNumber? a.lodMinClamp b.lodMinClamp && sameNumber? a.lodMaxClamp b.lodMaxClamp
    && a.compare == b.compare && sameNumber? a.maxAnisotropy b.maxAnisotropy

end Sampler

/-- Equality of what is special to a kind. -/
def Detail.same : Detail → Detail → Bool
  | .texture a, .texture b => a == b
  | .buffer a, .buffer b => a == b
  | .uniform a, .uniform b => a.same b
  | .sampler a, .sampler b => a.same b
  | .reference a, .reference b => a == b
  | _, _ => false

/-- Equality of two resources but for their bindings and the places of their declarations. -/
def Resource.sameApartFromSlot (a b : Resource) : Bool :=
  a.name == b.name && a.group == b.group && a.usedInBody == b.usedInBody
    && a.wildcards == b.wildcards && a.detail.same b.detail

/-! ## Changes -/

/-- What has to be done to go from one version of a shader to the next. -/
structure Change where
  requiresRebuild : Bool
  removed : List Resource
  added : List Resource
  reordered : List Resource
  codeChanged : Bool

/-- Whether nothing has to be rebuilt, recreated or rebound. -/
def Change.isEmpty (change : Change) : Bool :=
  !change.requiresRebuild && change.removed.isEmpty && change.added.isEmpty
    && change.reordered.isEmpty

/-- The resources of a shader by identity; of several with one identity the last counts. -/
def Shader.byIdentity (shader : Shader) : Table Identity Resource :=
  Table.ofList (shader.resources.map fun resource => (resource.identity, resource))

/-- What becomes of a resource in the next version of its shader. -/
inductive Fate where
  | gone
  | replaced (next : Resource)
  | moved (next : Resource)
  | kept

/-- What becomes of a resource, given the one that corresponds to it. -/
def fateOf (old : Resource) : Option Resource → Fate
  | none => .gone
  | some new =>
      if !old.sameApartFromSlot new then .replaced new
      else if old.binding ≠ new.binding then .moved new
      else .kept

/-- The changes from one version of a shader to the next. -/
def changes (before after : Shader) : Change :=
  let old := before.byIdentity
  let new := after.byIdentity
  let fates := old.entries.map fun entry => (entry.2, fateOf entry.2 (new.find? entry.1))
  { requiresRebuild := before.kind ≠ after.kind || before.entry ≠ after.entry
    removed := fates.filterMap fun (resource, fate) =>
      match fate with
      | .gone | .replaced _ => some resource
      | _ => none
    added :=
      (fates.filterMap fun (_, fate) =>
        match fate with
        | .replaced next => some next
        | _ => none)
      ++ (new.entries.filter fun entry => !old.contains entry.1).map (·.2)
    reordered := fates.filterMap fun (_, fate) =>
      match fate with
      | .moved next => some next
      | _ => none
    codeChanged := before.code ≠ after.code }

end ShaderMarkup
