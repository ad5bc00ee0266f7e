import Mathlib.Data.List.Nodup
import ShaderMarkup.Proofs.Allocation
import ShaderMarkup.Proofs.Equality

/-!
# What the changes between two shaders say

Of the resources of a shader that have one identity, the last one counts: `Shader.last?`.

* `Classified` lists what can become of an identity, and what each of the three lists of a change
  says about it.  `classified_changes` shows that the changes between two shaders say just that,
  about every identity.
* `mem_removed_iff`, `mem_added_iff` and `mem_reordered_iff` read the three lists one by one.
* `Change.carryOut` deletes, inserts and replaces as a change says.  `carryOut_changes` shows that
  the resources of the first shader become those of the second.
-/

namespace ShaderMarkup

/-! ## Resources by identity -/

/-- The last resource of an identity. -/
def Shader.last? (shader : Shader) (identity : Identity) : Option Resource :=
  shader.resources.findRev? fun resource => resource.identity = identity

/-- The resources of an identity, in their order. -/
def ofIdentity (identity : Identity) (resources : List Resource) : List Resource :=
  resources.filter fun resource => resource.identity = identity

theorem mem_ofIdentity_self {resource : Resource} {resources : List Resource} :
    resource ∈ ofIdentity resource.identity resources ↔ resource ∈ resources := by
  simp [ofIdentity]

theorem identity_of_last? {shader : Shader} {identity : Identity} {resource : Resource}
    (h : shader.last? identity = some resource) : resource.identity = identity := by
  rw [Shader.last?, List.findRev?_eq_find?_reverse] at h
  simpa using List.find?_some h

theorem mem_of_last? {shader : Shader} {identity : Identity} {resource : Resource}
    (h : shader.last? identity = some resource) : resource ∈ shader.resources := by
  rw [Shader.last?, List.findRev?_eq_find?_reverse] at h
  exact List.mem_reverse.mp (List.mem_of_find?_eq_some h)

theorem find?_byIdentity (shader : Shader) (identity : Identity) :
    shader.byIdentity.find? identity = shader.last? identity := by
  rw [Shader.byIdentity, Table.find?_ofList, Shader.last?, List.findRev?_eq_find?_reverse,
    List.findRev?_eq_find?_reverse, ← List.map_reverse, List.find?_map, Option.map_map]
  exact Option.map_id'

theorem identity_of_mem_byIdentity {shader : Shader} {entry : Identity × Resource}
    (h : entry ∈ shader.byIdentity.entries) : entry.2.identity = entry.1 := by
  obtain ⟨resource, _, rfl⟩ := List.mem_map.mp (Table.mem_entries_ofList h)
  rfl

/-- The resources of a shader are told apart by their identities. -/
def Shader.Distinct (shader : Shader) : Prop :=
  (shader.resources.map Resource.identity).Nodup

theorem Shader.Distinct.last?_of_mem {shader : Shader} (h : shader.Distinct) {resource : Resource}
    (hmem : resource ∈ shader.resources) : shader.last? resource.identity = some resource := by
  obtain ⟨found, hfound⟩ : ∃ found, shader.last? resource.identity = some found := by
    rw [← Option.isSome_iff_exists, Shader.last?, List.findRev?_eq_find?_reverse, List.find?_isSome]
    exact ⟨resource, List.mem_reverse.mpr hmem, by simp⟩
  have hsame : found = resource :=
    List.inj_on_of_nodup_map h (mem_of_last? hfound) hmem (identity_of_last? hfound)
  rw [hfound, hsame]

theorem Resource.identity_of_unbound_eq {a b : Resource} (h : a.unbound = b.unbound) :
    a.identity = b.identity := by
  rw [Resource.eq_of_unbound_eq h]
  rfl

theorem Resource.IsNumeric.equal_of_unbound_eq {old new : Resource} (hnumeric : old.IsNumeric)
    (h : new.unbound = old.unbound) : old.EqualApartFromSlot new := by
  rw [Resource.eq_of_unbound_eq h]
  exact hnumeric.equalApartFromSlot new.binding old.declarationIndex

/-! ## The three lists -/

/-- What a fate puts among the removed resources. -/
def Fate.removed (old : Resource) : Fate → Option Resource
  | .gone | .replaced _ => some old
  | _ => none

/-- What a fate puts among the added resources. -/
def Fate.added : Fate → Option Resource
  | .replaced next => some next
  | _ => none

/-- What a fate puts among the reordered resources. -/
def Fate.reordered : Fate → Option Resource
  | .moved next => some next
  | _ => none

section Lists

variable (before after : Shader)

theorem removed_eq : (changes before after).removed
    = before.byIdentity.entries.filterMap fun entry =>
        (fateOf entry.2 (after.last? entry.1)).removed entry.2 := by
  unfold changes
  dsimp only
  rw [List.filterMap_map]
  refine List.filterMap_congr fun entry _ => ?_
  rw [Function.comp_apply, find?_byIdentity]
  cases fateOf entry.2 (after.last? entry.1) <;> rfl

theorem reordered_eq : (changes before after).reordered
    = before.byIdentity.entries.filterMap fun entry =>
        (fateOf entry.2 (after.last? entry.1)).reordered := by
  unfold changes
  dsimp only
  rw [List.filterMap_map]
  refine List.filterMap_congr fun entry _ => ?_
  rw [Function.comp_apply, find?_byIdentity]
  cases fateOf entry.2 (after.last? entry.1) <;> rfl

theorem added_eq : (changes before after).added
    = (before.byIdentity.entries.filterMap fun entry =>
        (fateOf entry.2 (after.last? entry.1)).added)
      ++ after.byIdentity.entries.filterMap fun entry =>
        if (before.last? entry.1).isNone then some entry.2 else none := by
  unfold changes
  dsimp only
  rw [List.filterMap_map, ← List.filterMap_eq_map, List.filterMap_filter]
  congr 1
  · refine List.filterMap_congr fun entry _ => ?_
    rw [Function.comp_apply, find?_byIdentity]
    cases fateOf entry.2 (after.last? entry.1) <;> rfl
  · refine List.filterMap_congr fun entry _ => ?_
    rw [Table.contains, find?_byIdentity]
    cases before.last? entry.1 <;> rfl

variable (identity : Identity)

theorem ofIdentity_removed : ofIdentity identity (changes before after).removed
    = ((before.last? identity).bind fun old =>
        (fateOf old (after.last? identity)).removed old).toList := by
  rw [removed_eq, ← find?_byIdentity before]
  refine Table.filter_filterMap_entries ?_ identity
  intro entry hentry resource hresource
  have hsame : entry.2 = resource := by
    revert hresource
    cases fateOf entry.2 (after.last? entry.1) <;> simp [Fate.removed]
  rw [← hsame, identity_of_mem_byIdentity hentry]

/-- What a resource becomes has its identity. -/
theorem identity_of_fateOf {old next : Resource}
    (h : (fateOf old (after.last? identity)).added = some next ∨
      (fateOf old (after.last? identity)).reordered = some next) : next.identity = identity := by
  cases hlast : after.last? identity with
  | none => simp [hlast, fateOf, Fate.added, Fate.reordered] at h
  | some new =>
      rw [hlast, fateOf] at h
      split at h
      · obtain rfl : new = next := by simpa [Fate.added, Fate.reordered] using h
        exact identity_of_last? hlast
      · split at h
        · obtain rfl : new = next := by simpa [Fate.added, Fate.reordered] using h
          exact identity_of_last? hlast
        · simp [Fate.added, Fate.reordered] at h

theorem ofIdentity_reordered : ofIdentity identity (changes before after).reordered
    = ((before.last? identity).bind fun old =>
        (fateOf old (after.last? identity)).reordered).toList := by
  rw [reordered_eq, ← find?_byIdentity before]
  refine Table.filter_filterMap_entries ?_ identity
  intro entry _ resource hresource
  exact identity_of_fateOf after entry.1 (Or.inr hresource)

theorem ofIdentity_added : ofIdentity identity (changes before after).added
    = ((before.last? identity).bind fun old => (fateOf old (after.last? identity)).added).toList
      ++ ((after.last? identity).bind fun new =>
        if (before.last? identity).isNone then some new else none).toList := by
  rw [added_eq, ofIdentity, List.filter_append]
  congr 1
  · rw [← find?_byIdentity before]
    refine Table.filter_filterMap_entries ?_ identity
    intro entry _ resource hresource
    exact identity_of_fateOf after entry.1 (Or.inl hresource)
  · rw [← find?_byIdentity after]
    refine Table.filter_filterMap_entries ?_ identity
    intro entry hentry resource hresource
    have hsame : entry.2 = resource := by
      split at hresource
      · exact Option.some_inj.mp hresource
      · cases hresource
    rw [← hsame, identity_of_mem_byIdentity hentry]

end Lists

/-! ## What becomes of an identity -/

/-- What the three lists of a change say about an identity, given the last resource that has it in
each of the two shaders. -/
inductive Classified : Option Resource → Option Resource →
    List Resource → List Resource → List Resource → Prop
  | absent : Classified none none [] [] []
  | removed (old : Resource) : Classified (some old) none [old] [] []
  | added (new : Resource) : Classified none (some new) [] [new] []
  | kept {old new : Resource} (hequal : old.EqualApartFromSlot new)
      (hbinding : old.binding = new.binding) : Classified (some old) (some new) [] [] []
  | reordered {old new : Resource} (hequal : old.EqualApartFromSlot new)
      (hbinding : old.binding ≠ new.binding) : Classified (some old) (some new) [] [] [new]
  | replaced {old new : Resource} (hequal : ¬ old.EqualApartFromSlot new) :
      Classified (some old) (some new) [old] [new] []

theorem fateOf_some (old new : Resource) :
    (old.EqualApartFromSlot new ∧ old.binding = new.binding ∧ fateOf old (some new) = .kept) ∨
      (old.EqualApartFromSlot new ∧ old.binding ≠ new.binding ∧
        fateOf old (some new) = .moved new) ∨
      ¬ old.EqualApartFromSlot new ∧ fateOf old (some new) = .replaced new := by
  unfold fateOf
  rw [← Resource.sameApartFromSlot_iff]
  by_cases hequal : old.sameApartFromSlot new = true
  · by_cases hbinding : old.binding = new.binding
    · exact Or.inl ⟨hequal, hbinding, by simp [hequal, hbinding]⟩
    · exact Or.inr (Or.inl ⟨hequal, hbinding, by simp [hequal, hbinding]⟩)
  · exact Or.inr (Or.inr ⟨hequal, by simp [hequal]⟩)

/-- The changes say about every identity what becomes of it. -/
theorem classified_changes (before after : Shader) (identity : Identity) :
    Classified (before.last? identity) (after.last? identity)
      (ofIdentity identity (changes before after).removed)
      (ofIdentity identity (changes before after).added)
      (ofIdentity identity (changes before after).reordered) := by
  rw [ofIdentity_removed, ofIdentity_added, ofIdentity_reordered]
  cases before.last? identity with
  | none =>
      cases after.last? identity with
      | none => exact .absent
      | some new => exact .added new
  | some old =>
      cases after.last? identity with
      | none => exact .removed old
      | some new =>
          dsimp only [Option.bind_some]
          rcases fateOf_some old new with ⟨hequal, hbinding, hfate⟩ | ⟨hequal, hbinding, hfate⟩ |
            ⟨hequal, hfate⟩
          · rw [hfate]
            exact .kept hequal hbinding
          · rw [hfate]
            exact .reordered hequal hbinding
          · rw [hfate]
            exact .replaced hequal

/-! ## Carrying out a change -/

/-- Two resources agree on every field but the index of the declaration. -/
def Resource.EqualApartFromIndex (a b : Resource) : Prop :=
  a = b ∨ a.EqualApartFromSlot b ∧ a.binding = b.binding

/-- The resources by identity, once a change is carried out: those that are removed are deleted,
those that are added are put in, and those that are reordered replace what was there. -/
def Change.carryOut (change : Change) (resources : Identity → Option Resource)
    (identity : Identity) : Option Resource :=
  let remaining :=
    if (ofIdentity identity change.removed).isEmpty then resources identity else none
  let completed := (ofIdentity identity change.added).head?.or remaining
  completed.map fun resource => (ofIdentity identity change.reordered).head?.getD resource

/-- What was removed, added and reordered leads from the resources of the first shader to those of
the second. -/
theorem carryOut_changes (before after : Shader) (identity : Identity) :
    Option.Rel Resource.EqualApartFromIndex
      ((changes before after).carryOut before.last? identity) (after.last? identity) := by
  have h := classified_changes before after identity
  unfold Change.carryOut
  generalize before.last? identity = old, after.last? identity = new,
    ofIdentity identity (changes before after).removed = removed,
    ofIdentity identity (changes before after).added = added,
    ofIdentity identity (changes before after).reordered = reordered at h
  cases h with
  | absent => exact .none
  | removed old => exact .none
  | added new => exact .some (Or.inl rfl)
  | kept hequal hbinding => exact .some (Or.inr ⟨hequal, hbinding⟩)
  | reordered hequal hbinding => exact .some (Or.inl rfl)
  | replaced hequal => exact .some (Or.inl rfl)

/-- Let `B` and `A` be the last resources of an identity in two shaders.  If only `B` is there, it
is removed; if only `A` is there, it is added.  If both are there and agree on every field but the
binding and the index, nothing is removed or added, and `A` is reordered just when the bindings
differ.  Otherwise `B` is removed and `A` is added.  The lists say nothing else about the identity,
and carrying them out leads to the second shader.  The shader has to be rebuilt just when its kind
or its entry point changes. -/
theorem changes_patch_law (before after : Shader) :
    (∀ identity, Classified (before.last? identity) (after.last? identity)
      (ofIdentity identity (changes before after).removed)
      (ofIdentity identity (changes before after).added)
      (ofIdentity identity (changes before after).reordered)) ∧
    (∀ identity, Option.Rel Resource.EqualApartFromIndex
      ((changes before after).carryOut before.last? identity) (after.last? identity)) ∧
    ((changes before after).requiresRebuild = true ↔
      before.kind ≠ after.kind ∨ before.entry ≠ after.entry) := by
  refine ⟨classified_changes before after, carryOut_changes before after, ?_⟩
  simp [changes]

/-! ## Reading the lists one by one -/

section Members

variable {removed added reordered : List Resource} {resource : Resource}

theorem Classified.mem_removed_iff {old? new? : Option Resource}
    (h : Classified old? new? removed added reordered) :
    resource ∈ removed ↔ old? = some resource ∧
      ∀ new, new? = some new → ¬ resource.EqualApartFromSlot new := by
  cases h <;> grind

theorem Classified.mem_added_iff {old? new? : Option Resource}
    (h : Classified old? new? removed added reordered) :
    resource ∈ added ↔ new? = some resource ∧
      ∀ old, old? = some old → ¬ old.EqualApartFromSlot resource := by
  cases h <;> grind

theorem Classified.mem_reordered_iff {old? new? : Option Resource}
    (h : Classified old? new? removed added reordered) :
    resource ∈ reordered ↔ new? = some resource ∧
      ∃ old, old? = some old ∧ old.EqualApartFromSlot resource ∧
        old.binding ≠ resource.binding := by
  cases h <;> grind

variable {before after : Shader}

theorem mem_removed_iff : resource ∈ (changes before after).removed ↔
    before.last? resource.identity = some resource ∧
      ∀ new, after.last? resource.identity = some new → ¬ resource.EqualApartFromSlot new := by
  rw [← mem_ofIdentity_self]
  exact (classified_changes before after resource.identity).mem_removed_iff

theorem mem_added_iff : resource ∈ (changes before after).added ↔
    after.last? resource.identity = some resource ∧
      ∀ old, before.last? resource.identity = some old → ¬ old.EqualApartFromSlot resource := by
  rw [← mem_ofIdentity_self]
  exact (classified_changes before after resource.identity).mem_added_iff

theorem mem_reordered_iff : resource ∈ (changes before after).reordered ↔
    after.last? resource.identity = some resource ∧
      ∃ old, before.last? resource.identity = some old ∧ old.EqualApartFromSlot resource ∧
        old.binding ≠ resource.binding := by
  rw [← mem_ofIdentity_self]
  exact (classified_changes before after resource.identity).mem_reordered_iff

end Members

end ShaderMarkup
