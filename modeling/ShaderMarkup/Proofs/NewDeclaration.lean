import ShaderMarkup.Proofs.Classification
import ShaderMarkup.Proofs.Rank

/-!
# One more resource

A resource is declared somewhere among others, and the others are numbered anew in the same order.

* The free bindings of a group stay what they are, unless the new resource names one of them
  (`Inserts.freeBinding_eq`).  A resource has one more in front of it just when the new one is
  declared before it, in its group and without a binding (`Inserts.countP_eq`).
* So a slot changes only in the group of the new resource, and only if it was not named
  (`Inserts.automatic_of_binding_ne`).  If the new resource names no binding, just the slots behind
  it change (`Inserts.binding_ne_iff`).
* Therefore nothing is removed, only the new resource is added, and what is reordered is known
  (`changes_of_inserts`).
-/

namespace ShaderMarkup

/-- The resource with a new number for its declaration. -/
def Resource.renumber (number : Int → Int) (resource : Resource) : Resource :=
  { resource with declarationIndex := number resource.declarationIndex }

theorem Resource.identity_renumber (number : Int → Int) (resource : Resource) :
    (resource.renumber number).identity = resource.identity :=
  rfl

/-- A new resource stands among others, which are numbered anew in the same order. -/
structure Inserts (number : Int → Int) (new : Resource) (resources extended : List Resource) :
    Prop where
  indices : DistinctIndices resources
  identities : (resources.map Resource.identity).Nodup
  fresh : ∀ resource ∈ resources, resource.identity ≠ new.identity
  increasing : ∀ a ∈ resources, ∀ b ∈ resources, a.declarationIndex < b.declarationIndex →
    number a.declarationIndex < number b.declarationIndex
  elsewhere : ∀ resource ∈ resources, number resource.declarationIndex ≠ new.declarationIndex
  perm : extended.Perm (new :: resources.map (·.renumber number))

/-! ## Bindings -/

section Bindings

variable {resources : List Resource} {resource : Resource}

theorem Resource.settledAmong_eq (resources : List Resource) (resource : Resource) :
    resource.settledAmong resources
      = { resource with binding := (resource.settledAmong resources).binding } := by
  unfold Resource.settledAmong Resource.settledBehind
  split <;> rfl

theorem Resource.unbound_settledAmong (resources : List Resource) (resource : Resource) :
    (resource.settledAmong resources).unbound = resource.unbound := by
  rw [Resource.settledAmong_eq]
  rfl

theorem Resource.binding_settledAmong_of_some {binding : Int}
    (h : resource.binding = some binding) :
    (resource.settledAmong resources).binding = some binding := by
  rw [Resource.settledAmong, Resource.settledBehind, h]
  exact h

theorem Resource.binding_settledAmong_of_none (h : resource.binding = none) :
    (resource.settledAmong resources).binding
      = some (freeBinding resources resource.group
          ((resources.filter fun other =>
            other.declarationIndex < resource.declarationIndex).countP
              (Resource.isAutomaticIn resource.group)) : Int) := by
  rw [Resource.settledAmong, Resource.settledBehind, h]

end Bindings

namespace Inserts

variable {number : Int → Int} {new resource : Resource} {resources extended : List Resource}

theorem lt_iff (h : Inserts number new resources extended) {a b : Resource} (ha : a ∈ resources)
    (hb : b ∈ resources) :
    number a.declarationIndex < number b.declarationIndex ↔
      a.declarationIndex < b.declarationIndex := by
  refine ⟨fun hlt => ?_, h.increasing a ha b hb⟩
  rcases lt_trichotomy a.declarationIndex b.declarationIndex with hless | heq | hgreater
  · exact hless
  · rw [heq] at hlt
    exact absurd hlt (lt_irrefl _)
  · exact absurd (h.increasing b hb a ha hgreater) hlt.asymm

theorem indices_extended (h : Inserts number new resources extended) :
    DistinctIndices extended := by
  refine DistinctIndices.perm ?_ h.perm.symm
  rw [DistinctIndices, List.map_cons, List.map_map, List.nodup_cons]
  constructor
  · intro hmem
    obtain ⟨resource, hresource, heq⟩ := List.mem_map.mp hmem
    exact h.elsewhere resource hresource heq
  · refine List.pairwise_map.mpr ?_
    have hdiffer : resources.Pairwise fun a b => a.declarationIndex ≠ b.declarationIndex :=
      List.pairwise_map.mp h.indices
    refine hdiffer.imp_of_mem fun {a b} ha hb hne heq => ?_
    rcases lt_or_gt_of_ne hne with hlt | hgt
    · exact (h.increasing a ha b hb hlt).ne heq
    · exact (h.increasing b hb a ha hgt).ne' heq

/-- The free bindings of a group stay what they are, unless the new resource names one. -/
theorem freeBinding_eq (h : Inserts number new resources extended) {group : Int}
    (hnew : new.group = group → new.binding = none) :
    freeBinding extended group = freeBinding resources group := by
  rw [freeBinding_perm h.perm]
  have hfree : IsFree (new :: resources.map (·.renumber number)) group
      = IsFree resources group := by
    funext n
    unfold IsFree
    rw [List.forall_mem_cons, List.forall_mem_map, eq_iff_iff]
    refine and_iff_right fun hgroup => ?_
    rw [hnew hgroup]
    exact nofun
  unfold freeBinding
  rw [hfree]

/-- The resources without a binding in front of a resource are those that were in front of it, and
maybe the new one. -/
theorem countP_eq (h : Inserts number new resources extended) (hresource : resource ∈ resources)
    (group : Int) :
    (extended.filter fun other =>
        other.declarationIndex < (resource.renumber number).declarationIndex).countP
          (Resource.isAutomaticIn group)
      = (resources.filter fun other =>
          other.declarationIndex < resource.declarationIndex).countP (Resource.isAutomaticIn group)
        + if new.isAutomaticIn group = true ∧
            new.declarationIndex < number resource.declarationIndex then 1 else 0 := by
  have hothers : (resources.map (·.renumber number)).countP (fun other =>
        other.isAutomaticIn group
          && decide (other.declarationIndex < number resource.declarationIndex))
      = resources.countP fun other => other.isAutomaticIn group
          && decide (other.declarationIndex < resource.declarationIndex) := by
    rw [List.countP_map]
    refine List.countP_congr fun other hother => ?_
    have hlt := h.lt_iff hother hresource
    simp only [Function.comp_apply, Bool.and_eq_true, decide_eq_true_eq]
    exact and_congr Iff.rfl hlt
  rw [List.countP_filter, List.countP_filter, h.perm.countP_eq, List.countP_cons]
  simp only [Bool.and_eq_true, decide_eq_true_eq]
  exact congrArg (· + _) hothers

/-- A slot that changes was not named, and is in the group of the new resource. -/
theorem automatic_of_binding_ne (h : Inserts number new resources extended)
    (hresource : resource ∈ resources)
    (hne : (resource.settledAmong resources).binding
      ≠ ((resource.renumber number).settledAmong extended).binding) :
    resource.binding = none ∧ resource.group = new.group := by
  have hautomatic : resource.binding = none := by
    cases hbinding : resource.binding with
    | none => rfl
    | some binding =>
        have hbinding' : (resource.renumber number).binding = some binding := hbinding
        rw [Resource.binding_settledAmong_of_some hbinding,
          Resource.binding_settledAmong_of_some hbinding'] at hne
        exact absurd rfl hne
  refine ⟨hautomatic, ?_⟩
  by_contra hgroup
  have hautomatic' : (resource.renumber number).binding = none := hautomatic
  have hgroup' : (resource.renumber number).group = resource.group := rfl
  rw [Resource.binding_settledAmong_of_none hautomatic,
    Resource.binding_settledAmong_of_none hautomatic', hgroup',
    h.freeBinding_eq fun heq => absurd heq.symm hgroup, h.countP_eq hresource] at hne
  have hother : ¬ (new.isAutomaticIn resource.group = true ∧
      new.declarationIndex < number resource.declarationIndex) := by
    rintro ⟨hin, -⟩
    rw [Resource.isAutomaticIn, Bool.and_eq_true, decide_eq_true_eq] at hin
    exact hgroup hin.2.symm
  rw [if_neg hother, Nat.add_zero] at hne
  exact hne rfl

/-- If the new resource names no binding, the slots in its group change that were not named and are
declared behind it. -/
theorem binding_ne_iff (h : Inserts number new resources extended)
    (hresource : resource ∈ resources) (hnew : new.binding = none)
    (hautomatic : resource.binding = none) (hgroup : resource.group = new.group) :
    (resource.settledAmong resources).binding
        ≠ ((resource.renumber number).settledAmong extended).binding ↔
      new.declarationIndex < number resource.declarationIndex := by
  have hautomatic' : (resource.renumber number).binding = none := hautomatic
  have hgroup' : (resource.renumber number).group = resource.group := rfl
  have hin : new.isAutomaticIn resource.group = true := by
    simp [Resource.isAutomaticIn, hnew, hgroup]
  rw [Resource.binding_settledAmong_of_none hautomatic,
    Resource.binding_settledAmong_of_none hautomatic', hgroup', h.freeBinding_eq fun _ => hnew,
    h.countP_eq hresource, Ne, Option.some_inj, Int.ofNat_inj,
    (freeBinding_strictMono resources resource.group).injective.eq_iff]
  split
  next hbehind => exact ⟨fun _ => hbehind.2, fun _ => by omega⟩
  next hbehind => exact ⟨fun hne => absurd rfl hne, fun hlt => absurd ⟨hin, hlt⟩ hbehind⟩

/-! ## Resources by identity -/

variable {before after : Shader}

theorem mem_before_iff (h : Inserts number new resources extended)
    (hbefore : before.resources = (allocate resources).1) {old : Resource} :
    old ∈ before.resources ↔ ∃ resource ∈ resources, resource.settledAmong resources = old := by
  rw [hbefore, (allocate_perm_settledAmong h.indices).mem_iff, List.mem_map]

theorem mem_after_iff (h : Inserts number new resources extended)
    (hafter : after.resources = (allocate extended).1) {next : Resource} :
    next ∈ after.resources ↔ next = new.settledAmong extended ∨
      ∃ resource ∈ resources, (resource.renumber number).settledAmong extended = next := by
  rw [hafter, (allocate_perm_settledAmong h.indices_extended).mem_iff,
    (h.perm.map _).mem_iff, List.map_cons, List.mem_cons, List.map_map, List.mem_map]
  rfl

theorem identity_settledAmong (resources : List Resource) (resource : Resource) :
    (resource.settledAmong resources).identity = resource.identity :=
  Resource.identity_of_unbound_eq (Resource.unbound_settledAmong resources resource)

theorem distinct_before (h : Inserts number new resources extended)
    (hbefore : before.resources = (allocate resources).1) : before.Distinct := by
  rw [Shader.Distinct, hbefore, ((allocate_perm_settledAmong h.indices).map _).nodup_iff,
    List.map_map]
  exact List.map_congr_left (fun resource _ => identity_settledAmong resources resource) ▸
    h.identities

theorem distinct_after (h : Inserts number new resources extended)
    (hafter : after.resources = (allocate extended).1) : after.Distinct := by
  have hidentities : ((new :: resources.map (·.renumber number)).map Resource.identity).Nodup := by
    rw [List.map_cons, List.map_map, List.nodup_cons]
    refine ⟨fun hmem => ?_, h.identities⟩
    obtain ⟨resource, hresource, heq⟩ := List.mem_map.mp hmem
    exact h.fresh resource hresource heq
  rw [Shader.Distinct, hafter, ((allocate_perm_settledAmong h.indices_extended).map _).nodup_iff,
    List.map_map]
  rw [← (h.perm.map _).nodup_iff] at hidentities
  exact List.map_congr_left (fun resource _ => identity_settledAmong extended resource) ▸
    hidentities

theorem last?_before (h : Inserts number new resources extended)
    (hbefore : before.resources = (allocate resources).1) (hresource : resource ∈ resources) :
    before.last? resource.identity = some (resource.settledAmong resources) := by
  rw [← identity_settledAmong resources]
  exact (h.distinct_before hbefore).last?_of_mem ((h.mem_before_iff hbefore).mpr
    ⟨resource, hresource, rfl⟩)

theorem last?_after (h : Inserts number new resources extended)
    (hafter : after.resources = (allocate extended).1) (hresource : resource ∈ resources) :
    after.last? resource.identity = some ((resource.renumber number).settledAmong extended) := by
  rw [← Resource.identity_renumber number, ← identity_settledAmong extended]
  exact (h.distinct_after hafter).last?_of_mem ((h.mem_after_iff hafter).mpr
    (Or.inr ⟨resource, hresource, rfl⟩))

theorem last?_before_new (h : Inserts number new resources extended)
    (hbefore : before.resources = (allocate resources).1) : before.last? new.identity = none := by
  rw [← Option.not_isSome_iff_eq_none, Option.isSome_iff_exists]
  rintro ⟨old, hold⟩
  obtain ⟨resource, hresource, rfl⟩ := (h.mem_before_iff hbefore).mp (mem_of_last? hold)
  refine h.fresh resource hresource ?_
  rw [← identity_settledAmong resources]
  exact identity_of_last? hold

theorem last?_after_new (h : Inserts number new resources extended)
    (hafter : after.resources = (allocate extended).1) :
    after.last? new.identity = some (new.settledAmong extended) := by
  rw [← identity_settledAmong extended]
  exact (h.distinct_after hafter).last?_of_mem ((h.mem_after_iff hafter).mpr (Or.inl rfl))

/-- A resource whose numbers are numbers is still the same, but for its slot. -/
theorem equalApartFromSlot (number : Int → Int) (extended : List Resource)
    (hnumeric : resource.IsNumeric) :
    (resource.settledAmong resources).EqualApartFromSlot
      ((resource.renumber number).settledAmong extended) := by
  rw [Resource.settledAmong_eq resources, Resource.settledAmong_eq extended]
  exact ⟨rfl, rfl, rfl, rfl, Detail.equal_self hnumeric⟩

/-! ## Changes -/

section Numeric

variable (h : Inserts number new resources extended)
  (hnumeric : ∀ resource ∈ resources, resource.IsNumeric)
  (hbefore : before.resources = (allocate resources).1)
  (hafter : after.resources = (allocate extended).1)

include h hnumeric hbefore hafter

theorem removed_eq_nil : (changes before after).removed = [] := by
  rw [List.eq_nil_iff_forall_not_mem]
  intro old hold
  obtain ⟨hlast, hdiffers⟩ := mem_removed_iff.mp hold
  obtain ⟨resource, hresource, rfl⟩ := (h.mem_before_iff hbefore).mp (mem_of_last? hlast)
  have hnext := h.last?_after hafter hresource
  rw [← identity_settledAmong resources] at hnext
  exact hdiffers _ hnext (equalApartFromSlot number extended (hnumeric resource hresource))

theorem added_eq_singleton : (changes before after).added = [new.settledAmong extended] := by
  have hmem : ∀ next ∈ (changes before after).added, next.identity = new.identity := by
    intro next hnext
    obtain ⟨hlast, hdiffers⟩ := mem_added_iff.mp hnext
    rcases (h.mem_after_iff hafter).mp (mem_of_last? hlast) with rfl | ⟨resource, hresource, rfl⟩
    · exact identity_settledAmong extended new
    · have hold := h.last?_before hbefore hresource
      rw [← Resource.identity_renumber number, ← identity_settledAmong extended] at hold
      exact absurd (equalApartFromSlot number extended (hnumeric resource hresource))
        (hdiffers _ hold)
  have hall : ofIdentity new.identity (changes before after).added
      = (changes before after).added :=
    List.filter_eq_self.mpr fun next hnext => decide_eq_true (hmem next hnext)
  rw [← hall, ofIdentity_added, h.last?_before_new hbefore, h.last?_after_new hafter]
  rfl

theorem mem_reordered_iff {next : Resource} : next ∈ (changes before after).reordered ↔
    ∃ resource ∈ resources, (resource.renumber number).settledAmong extended = next ∧
      (resource.settledAmong resources).binding ≠ next.binding := by
  rw [ShaderMarkup.mem_reordered_iff]
  constructor
  · rintro ⟨hlast, old, hold, -, hne⟩
    obtain ⟨resource, hresource, rfl⟩ := (h.mem_before_iff hbefore).mp (mem_of_last? hold)
    have hidentity := identity_of_last? hold
    rw [identity_settledAmong] at hidentity
    rw [← hidentity, h.last?_after hafter hresource, Option.some_inj] at hlast
    exact ⟨resource, hresource, hlast, hne⟩
  · rintro ⟨resource, hresource, rfl, hne⟩
    rw [identity_settledAmong, Resource.identity_renumber]
    exact ⟨h.last?_after hafter hresource, _, h.last?_before hbefore hresource,
      equalApartFromSlot number extended (hnumeric resource hresource), hne⟩

end Numeric

end Inserts

/-- A resource of a new identity is declared among others that hold nothing but numbers and differ
in their indices and identities.  Then nothing is removed, and the new resource is added with its
slot.  What is reordered named no binding and is of the group of the new resource; and if that names
no binding either, the resources of its group without a binding are reordered that are declared
behind it, and no others. -/
theorem changes_of_inserts {number : Int → Int} {new : Resource}
    {resources extended : List Resource} {before after : Shader}
    (h : Inserts number new resources extended)
    (hnumeric : ∀ resource ∈ resources, resource.IsNumeric)
    (hbefore : before.resources = (allocate resources).1)
    (hafter : after.resources = (allocate extended).1) :
    (changes before after).removed = [] ∧
    (∃ slotted ∈ (allocate extended).1, slotted.unbound = new.unbound ∧
      (changes before after).added = [slotted]) ∧
    (∀ next ∈ (changes before after).reordered,
      ∃ resource ∈ resources, next.unbound = (resource.renumber number).unbound ∧
        resource.binding = none ∧ resource.group = new.group) ∧
    (new.binding = none → ∀ next, next ∈ (changes before after).reordered ↔
      next ∈ (allocate extended).1 ∧ new.declarationIndex < next.declarationIndex ∧
        ∃ resource ∈ resources, next.unbound = (resource.renumber number).unbound ∧
          resource.binding = none ∧ resource.group = new.group) := by
  refine ⟨h.removed_eq_nil hnumeric hbefore hafter, ?_, ?_, ?_⟩
  · refine ⟨new.settledAmong extended, ?_, Resource.unbound_settledAmong extended new,
      h.added_eq_singleton hnumeric hbefore hafter⟩
    rw [← hafter]
    exact (h.mem_after_iff hafter).mpr (Or.inl rfl)
  · intro next hnext
    obtain ⟨resource, hresource, rfl, hne⟩ :=
      (h.mem_reordered_iff hnumeric hbefore hafter).mp hnext
    exact ⟨resource, hresource, Resource.unbound_settledAmong extended _,
      h.automatic_of_binding_ne hresource hne⟩
  · intro hnew next
    rw [h.mem_reordered_iff hnumeric hbefore hafter]
    constructor
    · rintro ⟨resource, hresource, rfl, hne⟩
      obtain ⟨hautomatic, hgroup⟩ := h.automatic_of_binding_ne hresource hne
      refine ⟨?_, ?_, resource, hresource, Resource.unbound_settledAmong extended _, hautomatic,
        hgroup⟩
      · rw [← hafter]
        exact (h.mem_after_iff hafter).mpr (Or.inr ⟨resource, hresource, rfl⟩)
      · rw [Resource.settledAmong_eq]
        exact (h.binding_ne_iff hresource hnew hautomatic hgroup).mp hne
    · rintro ⟨hnext, hlt, resource, hresource, hunbound, hautomatic, hgroup⟩
      -- Identities tell the resources apart, so this is the resource that was settled.
      have hlast : after.last? next.identity = some next :=
        (h.distinct_after hafter).last?_of_mem (hafter.symm ▸ hnext)
      rw [Resource.identity_of_unbound_eq hunbound, Resource.identity_renumber,
        h.last?_after hafter hresource, Option.some_inj] at hlast
      refine ⟨resource, hresource, hlast, ?_⟩
      rw [← hlast, Resource.settledAmong_eq] at hlt
      rw [← hlast]
      exact (h.binding_ne_iff hresource hnew hautomatic hgroup).mpr hlt

/-- A sampler without a binding. -/
def samplerAt (name : String) (index : Int) : Resource where
  name := name.toList
  declarationIndex := index
  detail := .sampler {}

/-- Three samplers, the second of which names a binding. -/
def threeSamplers : List Resource :=
  [samplerAt "a" 0, { samplerAt "b" 1 with binding := some 1 }, samplerAt "c" 2]

/-- A fourth one in front of them. -/
def fourSamplers : List Resource :=
  samplerAt "n" 0 :: threeSamplers.map (·.renumber (· + 1))

/-- A shader that holds the resources with their slots. -/
def shaderOf (resources : List Resource) : Shader where
  kind := .resource
  resources := (allocate resources).1

theorem inserts_fourSamplers :
    Inserts (· + 1) (samplerAt "n" 0) threeSamplers fourSamplers where
  indices := by decide
  identities := by decide
  fresh := by decide
  increasing := by decide
  elsewhere := by decide
  perm := .refl _

/-- The new sampler takes the first slot, the named one keeps its own, and the other two move. -/
theorem changes_of_inserts_fourSamplers :
    (changes (shaderOf threeSamplers) (shaderOf fourSamplers)).removed = [] ∧
    (∃ slotted ∈ (allocate fourSamplers).1, slotted.unbound = (samplerAt "n" 0).unbound ∧
      (changes (shaderOf threeSamplers) (shaderOf fourSamplers)).added = [slotted]) ∧
    (∀ next, next ∈ (changes (shaderOf threeSamplers) (shaderOf fourSamplers)).reordered ↔
      next ∈ (allocate fourSamplers).1 ∧ 0 < next.declarationIndex ∧
        ∃ resource ∈ threeSamplers, next.unbound = (resource.renumber (· + 1)).unbound ∧
          resource.binding = none ∧ resource.group = 0) ∧
    (changes (shaderOf threeSamplers) (shaderOf fourSamplers)).reordered.map
        (fun next => (next.name, next.binding))
      = [("a".toList, some 2), ("c".toList, some 3)] := by
  have hnumeric : ∀ resource ∈ threeSamplers, resource.IsNumeric := by
    intro resource hresource number hnumber
    have hnone : ∀ resource ∈ threeSamplers, resource.detail.numbers.length = 0 := by decide
    rw [List.eq_nil_of_length_eq_zero (hnone resource hresource)] at hnumber
    exact absurd hnumber List.not_mem_nil
  obtain ⟨hremoved, hadded, -, hreordered⟩ :=
    @changes_of_inserts _ _ _ _ (shaderOf threeSamplers) (shaderOf fourSamplers)
      inserts_fourSamplers hnumeric rfl rfl
  exact ⟨hremoved, hadded, hreordered rfl, by decide⟩

/-- A sampler with a parameter that is no number. -/
def nanSampler : Resource where
  name := "s".toList
  detail := .sampler { maxAnisotropy := some (.float (Float.ofBits 0x7ff8000000000000)) }

/-- What is no number does not equal itself, and so its resource does not survive another one. -/
theorem nanSampler_removed :
    Inserts id (samplerAt "n" 1) [nanSampler] [nanSampler, samplerAt "n" 1] ∧
    (changes (shaderOf [nanSampler]) (shaderOf [nanSampler, samplerAt "n" 1])).removed ≠ [] := by
  refine ⟨⟨by decide, by decide, by decide, by decide, by decide, .swap _ _ _⟩, ?_⟩
  exact List.ne_nil_of_length_pos (by decide)

end ShaderMarkup
