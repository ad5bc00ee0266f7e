import ShaderMarkup.Proofs.Classification

/-!
# Changes in both directions

The changes between two shaders are found in one pass over the first and one over the second, and
the two passes differ.  Read identity by identity, they do not: `Classified` says what the lists
hold about an identity, and `Classified.swap` that the lists of the opposite change hold the same
with removed and added exchanged.  Lists that agree on every identity are permutations of each other
(`perm_of_ofIdentity_eq`), so the opposite change removes what the change adds and adds what it
removes.

A change is empty when every identity is unchanged (`isEmpty_changes_iff`).  Being unchanged is
symmetric and transitive like the comparison of resources underneath, and a resource is unchanged
from itself as long as its numbers equal themselves.
-/

namespace ShaderMarkup

/-! ## Lists that agree on every identity -/

/-- The numbers of a shader that may be doubles. -/
def Shader.numbers (shader : Shader) : List Number :=
  shader.resources.flatMap fun resource => resource.detail.numbers

open Classical in
theorem perm_of_ofIdentity_eq {left right : List Resource}
    (h : ∀ identity, ofIdentity identity left = ofIdentity identity right) : left.Perm right := by
  rw [List.perm_iff_count]
  intro resource
  have hcount : ∀ resources : List Resource,
      (ofIdentity resource.identity resources).count resource = resources.count resource :=
    fun resources => List.count_filter (by simp)
  rw [← hcount left, ← hcount right, h]

theorem count_map_identity (identity : Identity) (resources : List Resource) :
    (resources.map Resource.identity).count identity = (ofIdentity identity resources).length := by
  rw [ofIdentity, ← List.countP_eq_length_filter, List.count, List.countP_map]
  exact List.countP_congr fun resource _ => by simp

theorem perm_of_length_ofIdentity_eq {left right : List Resource}
    (h : ∀ identity, (ofIdentity identity left).length = (ofIdentity identity right).length) :
    (left.map Resource.identity).Perm (right.map Resource.identity) := by
  rw [List.perm_iff_count]
  intro identity
  rw [count_map_identity, count_map_identity, h]

/-! ## The opposite change -/

/-- What a change and its opposite say about one identity. -/
theorem Classified.swap {old? new? : Option Resource}
    {removed added reordered removed' added' reordered' : List Resource}
    (h : Classified old? new? removed added reordered)
    (h' : Classified new? old? removed' added' reordered') :
    removed = added' ∧ added = removed' ∧ reordered.length = reordered'.length := by
  cases h with
  | absent | removed old | added new =>
      cases h'
      exact ⟨rfl, rfl, rfl⟩
  | kept hequal hbinding =>
      cases h' with
      | kept => exact ⟨rfl, rfl, rfl⟩
      | reordered _ hbinding' => exact absurd hbinding.symm hbinding'
      | replaced hequal' => exact absurd hequal.symm hequal'
  | reordered hequal hbinding =>
      cases h' with
      | kept _ hbinding' => exact absurd hbinding'.symm hbinding
      | reordered => exact ⟨rfl, rfl, rfl⟩
      | replaced hequal' => exact absurd hequal.symm hequal'
  | replaced hequal =>
      cases h' with
      | kept hequal' | reordered hequal' => exact absurd hequal'.symm hequal
      | replaced => exact ⟨rfl, rfl, rfl⟩

theorem swap_changes (before after : Shader) (identity : Identity) :
    ofIdentity identity (changes before after).removed
        = ofIdentity identity (changes after before).added ∧
      ofIdentity identity (changes before after).added
        = ofIdentity identity (changes after before).removed ∧
      (ofIdentity identity (changes before after).reordered).length
        = (ofIdentity identity (changes after before).reordered).length :=
  (classified_changes before after identity).swap (classified_changes after before identity)

/-! ## Empty changes -/

/-- Nothing has to be done to go from one resource to the other. -/
structure Resource.Unchanged (old new : Resource) : Prop where
  equal : old.EqualApartFromSlot new
  binding : old.binding = new.binding

theorem Resource.Unchanged.trans (a b c : Resource) (h : a.Unchanged b) (h' : b.Unchanged c) :
    a.Unchanged c :=
  ⟨h.equal.trans h'.equal, h.binding.trans h'.binding⟩

theorem Classified.unchanged {old? new? : Option Resource} (h : Classified old? new? [] [] []) :
    Option.Rel Resource.Unchanged old? new? := by
  cases h with
  | absent => exact .none
  | kept hequal hbinding => exact .some ⟨hequal, hbinding⟩

theorem Classified.eq_nil {old? new? : Option Resource} {removed added reordered : List Resource}
    (h : Classified old? new? removed added reordered)
    (hunchanged : Option.Rel Resource.Unchanged old? new?) :
    removed = [] ∧ added = [] ∧ reordered = [] := by
  cases h with
  | absent | kept => exact ⟨rfl, rfl, rfl⟩
  | removed | added => cases hunchanged
  | reordered _ hbinding =>
      cases hunchanged with
      | some h => exact absurd h.binding hbinding
  | replaced hequal =>
      cases hunchanged with
      | some h => exact absurd h.equal hequal

theorem eq_nil_of_ofIdentity {resources : List Resource}
    (h : ∀ identity, ofIdentity identity resources = []) : resources = [] :=
  List.eq_nil_iff_forall_not_mem.mpr fun resource hmem => by
    have hself := mem_ofIdentity_self.mpr hmem
    rw [h] at hself
    exact List.not_mem_nil hself

/-- A change is empty when the kind and the entry point stay and every identity is unchanged. -/
theorem isEmpty_changes_iff {before after : Shader} :
    (changes before after).isEmpty = true ↔
      (before.kind = after.kind ∧ before.entry = after.entry) ∧
        ∀ identity, Option.Rel Resource.Unchanged (before.last? identity)
          (after.last? identity) := by
  have hrebuild : (changes before after).requiresRebuild = false ↔
      before.kind = after.kind ∧ before.entry = after.entry := by simp [changes]
  rw [← hrebuild]
  unfold Change.isEmpty
  simp only [Bool.and_eq_true, Bool.not_eq_true', List.isEmpty_iff, and_assoc]
  refine and_congr_right fun _ => ⟨?_, fun h => ?_⟩
  · rintro ⟨hremoved, hadded, hreordered⟩ identity
    have hclass := classified_changes before after identity
    rw [hremoved, hadded, hreordered] at hclass
    exact hclass.unchanged
  · have hnil := fun identity => (classified_changes before after identity).eq_nil (h identity)
    exact ⟨eq_nil_of_ofIdentity fun identity => (hnil identity).1,
      eq_nil_of_ofIdentity fun identity => (hnil identity).2.1,
      eq_nil_of_ofIdentity fun identity => (hnil identity).2.2⟩

theorem isEmpty_changes_self {shader : Shader}
    (h : ∀ number ∈ shader.numbers, number.same number = true) :
    (changes shader shader).isEmpty = true := by
  refine isEmpty_changes_iff.mpr ⟨⟨rfl, rfl⟩, fun identity => ?_⟩
  cases hlast : shader.last? identity with
  | none => exact .none
  | some resource =>
      have hnumeric : resource.IsNumeric := fun number hnumber =>
        Number.sameValue_self.mp (Number.same_iff.mp
          (h number (List.mem_flatMap.mpr ⟨resource, mem_of_last? hlast, hnumber⟩)))
      exact .some ⟨hnumeric.equalApartFromSlot resource.binding resource.declarationIndex, rfl⟩

theorem isEmpty_changes_trans {a b c : Shader} (hab : (changes a b).isEmpty = true)
    (hbc : (changes b c).isEmpty = true) : (changes a c).isEmpty = true := by
  obtain ⟨⟨hkind, hentry⟩, hsame⟩ := isEmpty_changes_iff.mp hab
  obtain ⟨⟨hkind', hentry'⟩, hsame'⟩ := isEmpty_changes_iff.mp hbc
  exact isEmpty_changes_iff.mpr ⟨⟨hkind.trans hkind', hentry.trans hentry'⟩, fun identity =>
    option_rel_trans Resource.Unchanged.trans (hsame identity) (hsame' identity)⟩

/-! ## The laws of changes -/

/-- The opposite change removes what a change adds and adds what it removes, reorders the same
identities, and agrees on whether the shader is rebuilt and its code differs.  A shader has no
changes to itself, and empty changes can be put one behind the other.

Numbers are compared by value, which is symmetric and transitive for all of them.  What has to be
assumed is that the numbers of the shader that is compared with itself equal themselves. -/
theorem changes_duality (a b c : Shader)
    (hself : ∀ number ∈ a.numbers, number.same number = true) :
    ((changes a b).removed.Perm (changes b a).added ∧
      (changes a b).added.Perm (changes b a).removed) ∧
    ((changes a b).reordered.map Resource.identity).Perm
      ((changes b a).reordered.map Resource.identity) ∧
    ((changes a b).requiresRebuild = (changes b a).requiresRebuild ∧
      (changes a b).codeChanged = (changes b a).codeChanged) ∧
    ((changes a a).isEmpty = true ∧ (changes a a).codeChanged = false) ∧
    ((changes a b).isEmpty = true → (changes b c).isEmpty = true →
      (changes a c).isEmpty = true) := by
  have hswap := swap_changes a b
  refine ⟨⟨perm_of_ofIdentity_eq fun identity => (hswap identity).1,
      perm_of_ofIdentity_eq fun identity => (hswap identity).2.1⟩,
    perm_of_length_ofIdentity_eq fun identity => (hswap identity).2.2,
    ⟨?_, ?_⟩, ⟨isEmpty_changes_self hself, ?_⟩, isEmpty_changes_trans⟩
  · simp only [changes, ne_comm (a := a.kind), ne_comm (a := a.entry)]
  · simp only [changes, ne_comm (a := a.code)]
  · simp [changes]

/-- A sampler with a number as its anisotropy. -/
def tunedSampler (name : String) (index : Int) (binding : Int) (value : Number) : Resource where
  name := name.toList
  binding := some binding
  declarationIndex := index
  detail := .sampler { maxAnisotropy := some value }

/-- A shader of two samplers whose parameters are the given number and four. -/
def tunedShader (index : Int) (value : Number) : Shader where
  kind := .resource
  resources := [tunedSampler "s" index 0 value, tunedSampler "t" (index + 1) 1 (.int 4)]

/-- A shader of one of the two samplers at another binding, and a new one. -/
def movedShader : Shader where
  kind := .resource
  resources := [tunedSampler "t" 0 0 (.int 4), tunedSampler "u" 1 1 (.int 8)]
  code := "x".toList

/-- Two as an integer and as a double make no difference, nor do indices; and going back from
`movedShader` undoes what going there did. -/
theorem changes_duality_tunedShader :
    (changes (tunedShader 0 (.int 2)) (tunedShader 5 (.float (Float.ofBits 0x4000000000000000)))
      ).isEmpty = true ∧
    (changes (tunedShader 0 (.int 2)) (tunedShader 9 (.int 2))).isEmpty = true ∧
    (changes (tunedShader 0 (.int 2)) movedShader).removed.Perm
      (changes movedShader (tunedShader 0 (.int 2))).added ∧
    (changes (tunedShader 0 (.int 2)) movedShader).removed.map (·.name) = ["s".toList] ∧
    (changes (tunedShader 0 (.int 2)) movedShader).added.map (·.name) = ["u".toList] ∧
    (changes (tunedShader 0 (.int 2)) movedShader).reordered.map (·.name) = ["t".toList] := by
  have hself : ∀ number ∈ (tunedShader 0 (.int 2)).numbers, number.same number = true := by
    intro number hnumber
    have hvalue : number = .int 2 ∨ number = .int 4 := by
      simpa [Shader.numbers, tunedShader, tunedSampler, Detail.numbers] using hnumber
    rcases hvalue with rfl | rfl <;> decide
  have hfirst : (changes (tunedShader 0 (.int 2))
      (tunedShader 5 (.float (Float.ofBits 0x4000000000000000)))).isEmpty = true := by decide
  obtain ⟨-, -, -, -, htrans⟩ := changes_duality (tunedShader 0 (.int 2))
    (tunedShader 5 (.float (Float.ofBits 0x4000000000000000))) (tunedShader 9 (.int 2)) hself
  obtain ⟨⟨hremoved, -⟩, -⟩ :=
    changes_duality (tunedShader 0 (.int 2)) movedShader movedShader hself
  exact ⟨hfirst, htrans hfirst (by decide), hremoved, by decide, by decide, by decide⟩

end ShaderMarkup
