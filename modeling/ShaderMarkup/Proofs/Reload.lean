import ShaderMarkup.Proofs.Classification
import ShaderMarkup.Proofs.Dependence

/-!
# What a wildcard changes

A source is compiled twice, with wildcards that differ in one value.  A resource that does not
depend on the wildcard comes out of both compilations alike, but for its binding
(`exists_same_unbound`): the wildcard may decide whether another declaration is accepted, and with
it which bindings are free.

So what is removed or added depends on the wildcard, and all else is at most reordered
(`wildcard_change_local`).
-/

namespace ShaderMarkup

/-! ## Two compilations -/

section Compilation

variable {source : Text} {environment environment' : Environment} {settings : Settings}
  {before after : Shader}

theorem Compiles.isNumeric_of_mem (h : Compiles source environment settings before)
    {resource : Resource} (hmem : resource ∈ before.resources) : resource.IsNumeric := by
  obtain ⟨_, _, hbuild, hdetail⟩ := h.exists_build_of_mem hmem
  rw [Resource.IsNumeric, ← hdetail]
  exact (Declaration.build_eq_ok hbuild).2.exact_ne_nan

/-- A resource that does not depend on the wildcard is there whatever the wildcard is, with the
same fields but for the binding. -/
theorem exists_same_unbound {name : Text} (hmarker : settings.marker = infoMarker)
    (hagree : environment.AgreeBut name environment')
    (hbefore : Compiles source environment settings before)
    (hafter : Compiles source environment' settings after) {old : Resource}
    (hold : old ∈ before.resources) (hname : name ∉ old.wildcards) :
    ∃ new ∈ after.resources, new.unbound = old.unbound := by
  have hunbound := hbefore.resources_perm.mem_iff.mp (List.mem_map_of_mem hold)
  obtain ⟨accepted, haccepted, hsame⟩ := List.mem_map.mp hunbound
  obtain ⟨declaration, hdeclaration, hread⟩ := mem_acceptedResources.mp haccepted
  have hwildcards : name ∉ accepted.wildcards := by
    rwa [Resource.eq_of_unbound_eq hsame]
  have hread' : declaration.accepted?
      ((Context.ofCode (stripComments source) environment settings).under environment')
        = some accepted := Declaration.accepted?_under hmarker hagree hread hwildcards
  have haccepted' : accepted
      ∈ acceptedResources (.ofCode (stripComments source) environment' settings) :=
    mem_acceptedResources.mpr ⟨declaration, hdeclaration, hread'⟩
  have hmem := hafter.resources_perm.mem_iff.mpr (List.mem_map_of_mem haccepted')
  obtain ⟨new, hnew, hunbound'⟩ := List.mem_map.mp hmem
  exact ⟨new, hnew, hunbound'.trans hsame⟩

/-- A source is compiled with two environments that agree on all wildcards but one, and the
resources of each shader have different identities.  Then every resource that is removed or added
depends on that wildcard.  Every other resource of the first shader has a counterpart in the second
that differs in nothing but its index and its binding, and is reordered where the bindings differ;
and so has every other resource of the second in the first. -/
theorem wildcard_change_local {name : Text} (hmarker : settings.marker = infoMarker)
    (hagree : environment.AgreeBut name environment')
    (hbefore : (compile source environment settings).result = .ok before)
    (hafter : (compile source environment' settings).result = .ok after)
    (hdistinct : before.Distinct) (hdistinct' : after.Distinct) :
    (∀ resource ∈ (changes before after).removed, name ∈ resource.wildcards) ∧
    (∀ resource ∈ (changes before after).added, name ∈ resource.wildcards) ∧
    (∀ old ∈ before.resources, old ∉ (changes before after).removed →
      ∃ new ∈ after.resources, old.EqualApartFromSlot new ∧
        (old.binding = new.binding ∨ new ∈ (changes before after).reordered)) ∧
    (∀ new ∈ after.resources, new ∉ (changes before after).added →
      ∃ old ∈ before.resources, old.EqualApartFromSlot new ∧
        (old.binding = new.binding ∨ new ∈ (changes before after).reordered)) := by
  rw [compile_eq_ok_iff] at hbefore hafter
  refine ⟨?_, ?_, ?_, ?_⟩
  · intro old hold
    obtain ⟨hlast, hdiffers⟩ := mem_removed_iff.mp hold
    by_contra hname
    obtain ⟨new, hnew, hsame⟩ :=
      exists_same_unbound hmarker hagree hbefore hafter (mem_of_last? hlast) hname
    have hlast' := hdistinct'.last?_of_mem hnew
    rw [Resource.identity_of_unbound_eq hsame] at hlast'
    have hnumeric := hbefore.isNumeric_of_mem (mem_of_last? hlast)
    exact hdiffers new hlast' (hnumeric.equal_of_unbound_eq hsame)
  · intro new hnew
    obtain ⟨hlast, hdiffers⟩ := mem_added_iff.mp hnew
    by_contra hname
    obtain ⟨old, hold, hsame⟩ :=
      exists_same_unbound hmarker hagree.symm hafter hbefore (mem_of_last? hlast) hname
    have hlast' := hdistinct.last?_of_mem hold
    rw [Resource.identity_of_unbound_eq hsame] at hlast'
    have hnumeric := hbefore.isNumeric_of_mem hold
    exact hdiffers old hlast' (hnumeric.equal_of_unbound_eq hsame.symm)
  · intro old hold hkept
    have hlast := hdistinct.last?_of_mem hold
    obtain ⟨new, hlast', hequal⟩ : ∃ new, after.last? old.identity = some new ∧
        old.EqualApartFromSlot new := by
      by_contra hnone
      exact hkept (mem_removed_iff.mpr
        ⟨hlast, fun new hnew hequal => hnone ⟨new, hnew, hequal⟩⟩)
    refine ⟨new, mem_of_last? hlast', hequal, ?_⟩
    by_cases hbinding : old.binding = new.binding
    · exact Or.inl hbinding
    · refine Or.inr (mem_reordered_iff.mpr ?_)
      rw [identity_of_last? hlast']
      exact ⟨hlast', old, hlast, hequal, hbinding⟩
  · intro new hnew hkept
    have hlast := hdistinct'.last?_of_mem hnew
    obtain ⟨old, hlast', hequal⟩ : ∃ old, before.last? new.identity = some old ∧
        old.EqualApartFromSlot new := by
      by_contra hnone
      exact hkept (mem_added_iff.mpr
        ⟨hlast, fun old hold hequal => hnone ⟨old, hold, hequal⟩⟩)
    refine ⟨old, mem_of_last? hlast', hequal, ?_⟩
    by_cases hbinding : old.binding = new.binding
    · exact Or.inl hbinding
    · exact Or.inr (mem_reordered_iff.mpr ⟨hlast, old, hlast', hequal, hbinding⟩)

end Compilation

/-- A buffer whose size is a wildcard, and a sampler behind it. -/
def countedBuffer : Text :=
  "@buffer(@size(info.n)) var<storage, read> b: array<f32>;\n@sampler var s: sampler;".toList

/-- The wildcard of the size. -/
def countOf (n : Int) : Environment :=
  [⟨"n".toList, [.int n], by simp, by simp⟩]

/-- What the source compiles to without the buffer. -/
def uncountedShader : Shader where
  kind := .resource
  resources := [
    { name := "s".toList, binding := some 0, declarationIndex := 1, detail := .sampler {} }]
  code := "var<storage, read> b: array<f32>;\n@group(0) @binding(0) var s: sampler;".toList

/-- What the source compiles to with a buffer of three numbers. -/
def countedShader : Shader where
  kind := .resource
  resources := [
    { name := "b".toList, binding := some 0, wildcards := ["n".toList],
      detail := .buffer ⟨3, "array<f32>".toList, "read".toList, none⟩ },
    { name := "s".toList, binding := some 1, declarationIndex := 1, detail := .sampler {} }]
  code := "@group(0) @binding(0) var<storage, read> b: array<f32>;\n".toList
    ++ "@group(0) @binding(1) var s: sampler;".toList

theorem compile_uncounted : (compile countedBuffer (countOf 0) {}).result = .ok uncountedShader :=
  eq_ok_of_toOption (by decide +kernel)

theorem compile_counted : (compile countedBuffer (countOf 3) {}).result = .ok countedShader :=
  eq_ok_of_toOption (by decide +kernel)

theorem countOf_agreeBut (m n : Int) : (countOf m).AgreeBut "n".toList (countOf n) := by
  intro other hother
  have hne : ¬ "n".toList = other := fun h => hother h.symm
  simp only [countOf, Environment.lookup?, List.reverse_singleton, List.find?_singleton,
    decide_eq_true_eq, if_neg hne]

/-- Where the size becomes positive, the buffer is added and the sampler moves. -/
theorem wildcard_change_local_counted :
    (changes uncountedShader countedShader).added.map (·.name) = ["b".toList] ∧
      (changes uncountedShader countedShader).reordered.map (·.name) = ["s".toList] ∧
      ∀ resource ∈ (changes uncountedShader countedShader).added,
        "n".toList ∈ resource.wildcards :=
  ⟨by decide +kernel, by decide +kernel,
    (wildcard_change_local rfl (countOf_agreeBut 0 3) compile_uncounted compile_counted
      (by unfold Shader.Distinct; decide +kernel)
      (by unfold Shader.Distinct; decide +kernel)).2.1⟩

end ShaderMarkup
