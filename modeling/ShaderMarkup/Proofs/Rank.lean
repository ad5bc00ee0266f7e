import Mathlib.Data.List.Nodup
import ShaderMarkup.Proofs.Allocation
import ShaderMarkup.Proofs.FirstFit

/-!
# Resources with different indices

Where no two resources have one index, the order of the declarations does not depend on the order of
the list.  Then what a resource gets can be said without the loop: the resources in front of it are
those with a smaller index (`Resource.settledAmong`, `allocate_perm_settledAmong`), and the
allocation as a whole does not depend on the order of the list (`allocate_eq_of_perm`).
-/

namespace ShaderMarkup

/-- The resources of a list have different indices. -/
def DistinctIndices (resources : List Resource) : Prop :=
  (resources.map (·.declarationIndex)).Nodup

instance : DecidablePred DistinctIndices := fun resources =>
  inferInstanceAs (Decidable (resources.map (·.declarationIndex)).Nodup)

/-- The resources in the order of their declarations. -/
def inDeclarationOrder (resources : List Resource) : List Resource :=
  sortBy (fun a b => decide (a.declarationIndex ≤ b.declarationIndex)) resources

/-- The resource with its binding, behind those of a smaller index. -/
noncomputable def Resource.settledAmong (resources : List Resource) (resource : Resource) :
    Resource :=
  resource.settledBehind resources
    (resources.filter fun other => other.declarationIndex < resource.declarationIndex)

section Distinct

variable {resources others : List Resource}

theorem DistinctIndices.perm (h : DistinctIndices resources) (hperm : resources.Perm others) :
    DistinctIndices others :=
  (hperm.map _).nodup_iff.mp h

theorem DistinctIndices.pairwise (h : DistinctIndices resources) :
    (inDeclarationOrder resources).Pairwise fun a b => a.declarationIndex < b.declarationIndex := by
  have hdiffer : resources.Pairwise fun a b => a.declarationIndex ≠ b.declarationIndex :=
    List.pairwise_map.mp h
  refine (pairwise_sortBy ?_ ?_ hdiffer).imp ?_
  · intro a b
    simp only [decide_eq_true_eq]
    omega
  · intro a b c hab hbc
    simp only [decide_eq_true_eq] at *
    omega
  · intro a b hbefore
    simp only [decide_eq_true_eq] at hbefore
    omega

/-- The resources in front of one are those with a smaller index. -/
theorem filter_index_lt {front behind : List Resource} {resource : Resource}
    (h : (front ++ resource :: behind).Pairwise
      fun a b => a.declarationIndex < b.declarationIndex) :
    (front ++ resource :: behind).filter
      (fun other => other.declarationIndex < resource.declarationIndex) = front := by
  rw [List.pairwise_append, List.pairwise_cons] at h
  obtain ⟨-, ⟨hbehind, -⟩, hfront⟩ := h
  have hkept : front.filter (fun other => other.declarationIndex < resource.declarationIndex)
      = front := by
    rw [List.filter_eq_self]
    intro other hother
    exact decide_eq_true (hfront other hother resource List.mem_cons_self)
  have hdropped : (resource :: behind).filter
      (fun other => other.declarationIndex < resource.declarationIndex) = [] := by
    rw [List.filter_eq_nil_iff]
    intro other hother
    rw [decide_eq_true_eq, not_lt]
    rcases List.mem_cons.mp hother with rfl | hother
    · exact le_rfl
    · exact (hbehind other hother).le
  rw [List.filter_append, hkept, hdropped, List.append_nil]

/-- What a resource gets depends on how many resources without a binding are in front of it. -/
theorem Resource.settledBehind_perm {earlier earlier' : List Resource}
    (hperm : earlier.Perm earlier') (resource : Resource) :
    resource.settledBehind resources earlier = resource.settledBehind resources earlier' := by
  unfold Resource.settledBehind
  rw [hperm.countP_eq]

/-- The loop settles every resource among all. -/
theorem DistinctIndices.assigned_eq (h : DistinctIndices resources) :
    assigned resources = (inDeclarationOrder resources).map (·.settledAmong resources) := by
  have hordered : assigned resources = (inDeclarationOrder resources).mapIdx fun place resource =>
      resource.settledBehind resources ((inDeclarationOrder resources).take place) :=
    assign_eq_mapIdx resources (inDeclarationOrder resources)
  have hpairwise := h.pairwise
  have hperm : (inDeclarationOrder resources).Perm resources := sortBy_perm _ _
  rw [hordered]
  generalize inDeclarationOrder resources = ordered at hpairwise hperm
  apply List.ext_getElem
  · simp
  intro place hplace hplace'
  rw [List.length_map] at hplace'
  rw [List.getElem_mapIdx, List.getElem_map, Resource.settledAmong]
  have hsplit : ordered.take place ++ ordered[place] :: ordered.drop (place + 1) = ordered := by
    rw [← List.drop_eq_getElem_cons hplace', List.take_append_drop]
  have hfront := filter_index_lt (hsplit.symm ▸ hpairwise)
  rw [hsplit] at hfront
  rw [← hfront]
  exact Resource.settledBehind_perm (hperm.filter _) _

/-- Every resource comes out once, settled among all. -/
theorem allocate_perm_settledAmong (h : DistinctIndices resources) :
    (allocate resources).1.Perm (resources.map (·.settledAmong resources)) := by
  refine (sortBy_perm _ _).trans ?_
  rw [h.assigned_eq]
  exact (sortBy_perm _ resources).map _

theorem freeBinding_perm (hperm : resources.Perm others) (group : Int) :
    freeBinding resources group = freeBinding others group := by
  have hfree : IsFree resources group = IsFree others group := by
    funext n
    unfold IsFree
    simp only [hperm.mem_iff]
  unfold freeBinding
  rw [hfree]

theorem Resource.settledAmong_perm (hperm : resources.Perm others) (resource : Resource) :
    resource.settledAmong resources = resource.settledAmong others := by
  unfold Resource.settledAmong
  rw [Resource.settledBehind_perm (hperm.filter _)]
  unfold Resource.settledBehind
  rw [freeBinding_perm hperm]

/-- The order of the list does not count. -/
theorem allocate_eq_of_perm (h : DistinctIndices resources) (hperm : resources.Perm others) :
    allocate resources = allocate others := by
  have hordered : inDeclarationOrder resources = inDeclarationOrder others := by
    refine List.Perm.eq_of_pairwise ?_ h.pairwise (h.perm hperm).pairwise
      ((sortBy_perm _ _).trans (hperm.trans (sortBy_perm _ _).symm))
    exact fun a b _ _ hab hba => absurd hba hab.asymm
  have hassigned : assigned resources = assigned others := by
    rw [h.assigned_eq, (h.perm hperm).assigned_eq, hordered]
    exact List.map_congr_left fun resource _ => Resource.settledAmong_perm hperm resource
  rw [allocate, allocate, hassigned]

end Distinct

end ShaderMarkup
