import Mathlib.Data.List.Nodup
import ShaderMarkup.Proofs.Allocation
import ShaderMarkup.Proofs.FirstFit

/-!
# Which slots are given away

What the allocation does to any list of resources, said without the loop (`IsAllocation`):

* every resource comes out once, and only a missing binding is filled in;
* in each group the resources without a binding, in the order of their declarations, get the free
  bindings, least first;
* the resources are in the order of their slots, and those of one slot in the order of their
  declarations;
* the collisions are the slots with several holders, and all of those named their binding.

Equal resources may stand in one list, so the statement follows each through the allocation by its
position in the input.
-/

namespace ShaderMarkup

/-! ## Orders -/

/-- The order of declarations: by index, then by position. -/
def DeclaredBefore (a b : Resource × Nat) : Prop :=
  a.1.declarationIndex < b.1.declarationIndex ∨
    a.1.declarationIndex = b.1.declarationIndex ∧ a.2 < b.2

/-- The strict order of slots: by group, then by binding. -/
def Slot.Before (a b : Slot) : Prop :=
  a.group < b.group ∨ a.group = b.group ∧ a.binding < b.binding

/-- The order of slots, and in one slot that of declarations. -/
def SlottedBefore (a b : Resource × Nat) : Prop :=
  a.1.slot.Before b.1.slot ∨ a.1.slot = b.1.slot ∧ DeclaredBefore a b

theorem Slot.atMost_iff {a b : Slot} : a.atMost b = true ↔ a.Before b ∨ a = b := by
  cases a
  cases b
  simp only [Slot.atMost, Slot.Before, Bool.or_eq_true, Bool.and_eq_true, decide_eq_true_eq,
    beq_iff_eq, Slot.mk.injEq]
  omega

theorem Slot.Before.trans {a b c : Slot} (hab : a.Before b) (hbc : b.Before c) : a.Before c := by
  unfold Slot.Before at *
  omega

theorem Slot.Before.asymm {a b : Slot} (hab : a.Before b) : ¬ b.Before a := by
  unfold Slot.Before at *
  omega

theorem Slot.Before.ne {a b : Slot} (hab : a.Before b) : a ≠ b := by
  rintro rfl
  exact hab.asymm hab

theorem Slot.atMost_total (a b : Slot) : a.atMost b = true ∨ b.atMost a = true := by
  simp only [Slot.atMost, Bool.or_eq_true, Bool.and_eq_true, decide_eq_true_eq, beq_iff_eq]
  omega

theorem Slot.atMost_trans {a b c : Slot} (hab : a.atMost b = true) (hbc : b.atMost c = true) :
    a.atMost c = true := by
  simp only [Slot.atMost, Bool.or_eq_true, Bool.and_eq_true, decide_eq_true_eq, beq_iff_eq] at *
  omega

theorem SlottedBefore.asymm {a b : Resource × Nat} (hab : SlottedBefore a b) :
    ¬ SlottedBefore b a := by
  rintro (hba | ⟨hslot, hba⟩)
  · rcases hab with hab | ⟨hslot, -⟩
    · exact hab.asymm hba
    · exact hba.ne hslot.symm
  · rcases hab with hab | ⟨-, hab⟩
    · exact hab.ne hslot.symm
    · unfold DeclaredBefore at *
      omega

/-! ## The specification -/

/-- The resource at the position of the entry was of the group and had no binding. -/
def wasAutomatic (resources : List Resource) (group : Int) (entry : Resource × Nat) : Bool :=
  resources[entry.2]?.any (Resource.isAutomaticIn group)

/-- What the allocation makes of resources: `placed` are the resources that come out, each with its
position in the input. -/
structure IsAllocation (resources : List Resource) (placed : List (Resource × Nat))
    (collisions : List Collision) : Prop where
  /-- Every resource comes out once. -/
  positions : (placed.map (·.2)).Perm (List.range resources.length)
  /-- Nothing but a missing binding changes. -/
  given : ∀ entry ∈ placed, ∃ resource, resources[entry.2]? = some resource ∧
    entry.1 = { resource with binding := entry.1.binding } ∧
    ∀ binding, resource.binding = some binding → entry.1.binding = some binding
  /-- The resources of a group without a binding are in the order of their declarations. -/
  in_order : ∀ group, (placed.filter (wasAutomatic resources group)).Pairwise DeclaredBefore
  /-- In that order they get the free bindings of the group, least first. -/
  least_free : ∀ group,
    (placed.filter (wasAutomatic resources group)).map (·.1.binding)
      = (List.range (resources.countP (Resource.isAutomaticIn group))).map
          fun count => some (freeBinding resources group count : Int)
  sorted : placed.Pairwise SlottedBefore
  collisions_sorted : collisions.Pairwise fun a b => a.slot.Before b.slot
  /-- The collisions are the slots with several holders, and name these. -/
  mem_collisions : ∀ collision, collision ∈ collisions ↔
    1 < (placed.filter fun entry => entry.1.slot = collision.slot).length ∧
    collision.names
      = (placed.filter fun entry => entry.1.slot = collision.slot).map (·.1.name)
  /-- No resource without a binding collides. -/
  collisions_named : ∀ collision ∈ collisions, ∀ entry ∈ placed,
    entry.1.slot = collision.slot → ∀ group, wasAutomatic resources group entry = false

/-! ## Following the resources -/

/-- The resources with their positions, in the order of their declarations. -/
def declared (resources : List Resource) : List (Resource × Nat) :=
  sortBy (fun a b => decide (a.1.declarationIndex ≤ b.1.declarationIndex)) resources.zipIdx

/-- These with their bindings. -/
noncomputable def settled (resources : List Resource) : List (Resource × Nat) :=
  (declared resources).mapIdx fun place entry =>
    (entry.1.settledBehind resources (((declared resources).take place).map (·.1)), entry.2)

/-- These in the order of their slots. -/
noncomputable def placed (resources : List Resource) : List (Resource × Nat) :=
  sortBy (fun a b => a.1.slot.atMost b.1.slot) (settled resources)

section Follow

variable {resources : List Resource}

theorem getElem?_of_mem_declared {entry : Resource × Nat} (h : entry ∈ declared resources) :
    resources[entry.2]? = some entry.1 :=
  List.mem_zipIdx_iff_getElem?.mp ((sortBy_perm _ _).mem_iff.mp h)

theorem declared_pairwise (resources : List Resource) :
    (declared resources).Pairwise DeclaredBefore := by
  have hpositions : resources.zipIdx.Pairwise fun a b => a.2 < b.2 := by
    rw [← List.pairwise_map (f := Prod.snd) (R := (· < ·)), List.zipIdx_map_snd,
      ← List.range_eq_range']
    exact List.pairwise_lt_range
  refine (pairwise_sortBy ?_ ?_ hpositions).imp ?_
  · intro a b
    simp only [decide_eq_true_eq]
    omega
  · intro a b c hab hbc
    simp only [decide_eq_true_eq] at *
    omega
  · intro a b h
    simp only [decide_eq_true_eq] at h
    unfold DeclaredBefore
    omega

theorem map_fst_declared (resources : List Resource) :
    (declared resources).map (·.1)
      = sortBy (fun a b => decide (a.declarationIndex ≤ b.declarationIndex)) resources := by
  have hmap : sortBy (fun a b => decide (a.declarationIndex ≤ b.declarationIndex))
      (resources.zipIdx.map (·.1)) = (declared resources).map (·.1) :=
    sortBy_map (fun _ _ => rfl) resources.zipIdx
  rw [← hmap, List.zipIdx_map_fst]

theorem map_fst_settled (resources : List Resource) :
    (settled resources).map (·.1) = assigned resources := by
  rw [assigned, assign_eq_mapIdx, ← map_fst_declared]
  apply List.ext_getElem?
  intro place
  simp [settled, List.map_take, Function.comp_def]

theorem map_fst_placed (resources : List Resource) :
    (placed resources).map (·.1) = (allocate resources).1 := by
  have hmap : sortBy (fun a b => a.slot.atMost b.slot) ((settled resources).map (·.1))
      = (placed resources).map (·.1) :=
    sortBy_map (fun _ _ => rfl) (settled resources)
  rw [← hmap, map_fst_settled, allocate]

theorem declarationIndex_settledBehind (earlier : List Resource) (resource : Resource) :
    (resource.settledBehind resources earlier).declarationIndex = resource.declarationIndex := by
  unfold Resource.settledBehind
  split <;> rfl

theorem group_settledBehind (earlier : List Resource) (resource : Resource) :
    (resource.settledBehind resources earlier).group = resource.group := by
  unfold Resource.settledBehind
  split <;> rfl

/-- Settling leaves the order of the declarations as it is. -/
theorem settled_pairwise (resources : List Resource) :
    (settled resources).Pairwise DeclaredBefore := by
  let key : Resource × Nat → Int × Nat := fun entry => (entry.1.declarationIndex, entry.2)
  have hkey : (settled resources).map key = (declared resources).map key := by
    apply List.ext_getElem?
    intro place
    simp [settled, key, Function.comp_def, declarationIndex_settledBehind]
  have hdeclared := declared_pairwise resources
  change List.Pairwise
    (fun a b => (key a).1 < (key b).1 ∨ (key a).1 = (key b).1 ∧ (key a).2 < (key b).2) _
    at hdeclared ⊢
  rw [← List.pairwise_map (f := key)
    (R := fun a b => a.1 < b.1 ∨ a.1 = b.1 ∧ a.2 < b.2)] at hdeclared ⊢
  rwa [hkey]

theorem map_snd_settled (resources : List Resource) :
    (settled resources).map (·.2) = (declared resources).map (·.2) := by
  apply List.ext_getElem?
  intro place
  simp [settled, Function.comp_def]

theorem exists_of_mem_settled {entry : Resource × Nat} (h : entry ∈ settled resources) :
    ∃ resource earlier, resources[entry.2]? = some resource ∧
      entry.1 = resource.settledBehind resources earlier := by
  obtain ⟨place, hplace, rfl⟩ := List.mem_mapIdx.mp h
  have hgiven := getElem?_of_mem_declared (List.getElem_mem hplace)
  exact ⟨_, _, hgiven, rfl⟩

/-- Behind some resources, those without a binding get the next free bindings of their group. -/
theorem binding_settledBehind (group : Int) (earlier : List Resource)
    (entries : List (Resource × Nat))
    (hentries : ∀ entry ∈ entries, resources[entry.2]? = some entry.1) :
    ((entries.mapIdx fun place entry =>
        (entry.1.settledBehind resources (earlier ++ (entries.take place).map (·.1)),
          entry.2)).filter (wasAutomatic resources group)).map (·.1.binding)
      = (List.range' (earlier.countP (Resource.isAutomaticIn group))
          (entries.countP fun entry => entry.1.isAutomaticIn group)).map
          fun count => some (freeBinding resources group count : Int) := by
  induction entries generalizing earlier with
  | nil => rfl
  | cons entry rest ih =>
      rw [List.forall_mem_cons] at hentries
      have htail : ∀ place, earlier ++ ((entry :: rest).take (place + 1)).map (·.1)
          = (earlier ++ [entry.1]) ++ (rest.take place).map (·.1) := by
        intro place
        rw [List.take_succ_cons, List.map_cons, List.append_assoc, List.singleton_append]
      have hrest := ih (earlier ++ [entry.1]) hentries.2
      have hwas : ∀ resource, wasAutomatic resources group (resource, entry.2)
          = entry.1.isAutomaticIn group := by
        intro resource
        rw [wasAutomatic, hentries.1, Option.any_some]
      rw [List.mapIdx_cons, List.take_zero, List.map_nil, List.append_nil]
      simp only [htail]
      rw [List.countP_append, List.countP_singleton] at hrest
      cases hauto : entry.1.isAutomaticIn group with
      | false =>
          rw [List.filter_cons_of_neg (by simp [hwas, hauto]),
            List.countP_cons_of_neg (by simp [hauto])]
          simpa [hauto] using hrest
      | true =>
          rw [List.filter_cons_of_pos (by simp [hwas, hauto]),
            List.countP_cons_of_pos (by simpa using hauto), List.map_cons, List.range'_succ,
            List.map_cons]
          have hfirst : (entry.1.settledBehind resources earlier).binding
              = some (freeBinding resources group
                  (earlier.countP (Resource.isAutomaticIn group)) : Int) := by
            simp only [Resource.isAutomaticIn, Bool.and_eq_true, Option.isNone_iff_eq_none,
              decide_eq_true_eq] at hauto
            rw [Resource.settledBehind, hauto.1, hauto.2]
          rw [hfirst]
          simpa [hauto] using hrest

/-- In each group the resources without a binding get the free bindings, least first. -/
theorem binding_settled (resources : List Resource) (group : Int) :
    ((settled resources).filter (wasAutomatic resources group)).map (·.1.binding)
      = (List.range (resources.countP (Resource.isAutomaticIn group))).map
          fun count => some (freeBinding resources group count : Int) := by
  have hcount : (declared resources).countP (fun entry => entry.1.isAutomaticIn group)
      = resources.countP (Resource.isAutomaticIn group) := by
    rw [declared, (sortBy_perm _ resources.zipIdx).countP_eq]
    conv_rhs => rw [← List.zipIdx_map_fst 0 resources, List.countP_map]
    rfl
  have hall := binding_settledBehind group [] (declared resources)
    fun entry hentry => getElem?_of_mem_declared hentry
  rw [hcount, List.countP_nil, ← List.range_eq_range'] at hall
  exact hall

end Follow

/-! ## The order of the slots -/

section Placed

variable {resources : List Resource} {group : Int}

theorem mem_placed_iff {entry : Resource × Nat} :
    entry ∈ placed resources ↔ entry ∈ settled resources :=
  (sortBy_perm _ _).mem_iff

theorem placed_pairwise (resources : List Resource) :
    (placed resources).Pairwise SlottedBefore := by
  refine (pairwise_sortBy ?_ ?_ (settled_pairwise resources)).imp ?_
  · exact fun a b => Slot.atMost_total _ _
  · exact fun a b c => Slot.atMost_trans
  · rintro a b ⟨hle, hback⟩
    rcases Slot.atMost_iff.mp hle with hbefore | heq
    · exact Or.inl hbefore
    · exact Or.inr ⟨heq, hback (Slot.atMost_iff.mpr (Or.inr heq.symm))⟩

theorem group_of_wasAutomatic {entry : Resource × Nat} (hentry : entry ∈ settled resources)
    (hauto : wasAutomatic resources group entry = true) : entry.1.group = group := by
  obtain ⟨resource, earlier, hgiven, hsettled⟩ := exists_of_mem_settled hentry
  rw [wasAutomatic, hgiven, Option.any_some, Resource.isAutomaticIn, Bool.and_eq_true,
    decide_eq_true_eq] at hauto
  rw [hsettled, group_settledBehind, hauto.2]

theorem bindingNumber_pairwise (resources : List Resource) (group : Int) :
    ((settled resources).filter (wasAutomatic resources group)).Pairwise
      fun a b => a.1.bindingNumber < b.1.bindingNumber := by
  have hnumbers : ((settled resources).filter (wasAutomatic resources group)).map
        (fun entry => entry.1.bindingNumber)
      = (List.range (resources.countP (Resource.isAutomaticIn group))).map
          fun count => (freeBinding resources group count : Int) := by
    have hmap := congrArg (List.map fun binding => binding.getD (-1))
      (binding_settled resources group)
    rwa [List.map_map, List.map_map] at hmap
  rw [← List.pairwise_map (f := fun entry : Resource × Nat => entry.1.bindingNumber)
    (R := (· < ·)), hnumbers, List.pairwise_map]
  exact List.pairwise_lt_range.imp fun hlt =>
    Int.ofNat_lt.mpr (freeBinding_strictMono resources group hlt)

/-- The resources of a group that had no binding are in the order of their declarations, as well as
in that of their slots. -/
theorem filter_wasAutomatic_placed (resources : List Resource) (group : Int) :
    (placed resources).filter (wasAutomatic resources group)
      = (settled resources).filter (wasAutomatic resources group) := by
  refine List.Perm.eq_of_pairwise ?_ ((placed_pairwise resources).filter _) ?_
    ((sortBy_perm _ _).filter _)
  · exact fun a b _ _ hab hba => absurd hba hab.asymm
  · -- The free bindings increase, so the later declaration has the later slot.
    refine (bindingNumber_pairwise resources group).imp_of_mem
      fun {a b} ha hb hlt => Or.inl (Or.inr ⟨?_, hlt⟩)
    rw [List.mem_filter] at ha hb
    exact (group_of_wasAutomatic ha.1 ha.2).trans (group_of_wasAutomatic hb.1 hb.2).symm

/-- A resource that had no binding shares its slot with no other. -/
theorem eq_of_slot_eq {entry other : Resource × Nat} (hentry : entry ∈ settled resources)
    (hother : other ∈ settled resources) (hauto : wasAutomatic resources group entry = true)
    (hslot : other.1.slot = entry.1.slot) : other = entry := by
  rw [Resource.slot, Resource.slot, Slot.mk.injEq] at hslot
  obtain ⟨hgroup, hnumber⟩ := hslot
  have hmem : entry ∈ (settled resources).filter (wasAutomatic resources group) :=
    List.mem_filter.mpr ⟨hentry, hauto⟩
  cases hboth : wasAutomatic resources group other with
  | true =>
      have hnodup : (((settled resources).filter (wasAutomatic resources group)).map
          fun entry => entry.1.bindingNumber).Nodup :=
        List.pairwise_map.mpr ((bindingNumber_pairwise resources group).imp ne_of_lt)
      exact List.inj_on_of_nodup_map hnodup (List.mem_filter.mpr ⟨hother, hboth⟩) hmem hnumber
  | false =>
      -- The other names its binding, and so it is not free.
      exfalso
      obtain ⟨resource, earlier, hgiven, hsettled⟩ := exists_of_mem_settled hother
      have hbinding : entry.1.binding ∈ (List.range (resources.countP
          (Resource.isAutomaticIn group))).map
            fun count => some (freeBinding resources group count : Int) := by
        rw [← binding_settled]
        exact List.mem_map_of_mem hmem
      obtain ⟨count, -, hfree⟩ := List.mem_map.mp hbinding
      have hin : resource.group = group := by
        rw [← group_settledBehind earlier resource, ← hsettled, hgroup,
          group_of_wasAutomatic hentry hauto]
      rw [wasAutomatic, hgiven, Option.any_some, Resource.isAutomaticIn, hin] at hboth
      cases hnamed : resource.binding with
      | none => simp [hnamed] at hboth
      | some binding =>
          rw [Resource.settledBehind, hnamed] at hsettled
          rw [Resource.bindingNumber, Resource.bindingNumber, hsettled, hnamed, ← hfree] at hnumber
          refine isFree_freeBinding count resource (List.mem_of_getElem? hgiven) hin ?_
          rw [hnamed]
          exact congrArg some hnumber

end Placed

/-! ## Collisions -/

section Collisions

theorem mem_insertSlot {slot other : Slot} {slots : List Slot} :
    other ∈ insertSlot slot slots ↔ other = slot ∨ other ∈ slots := by
  induction slots with
  | nil => simp [insertSlot]
  | cons first rest ih =>
      rw [insertSlot]
      split
      next heq => simp [heq]
      next =>
        split
        next => rw [List.mem_cons]
        next =>
          rw [List.mem_cons, ih, List.mem_cons]
          exact or_left_comm

theorem insertSlot_pairwise (slot : Slot) {slots : List Slot} (h : slots.Pairwise Slot.Before) :
    (insertSlot slot slots).Pairwise Slot.Before := by
  induction slots with
  | nil => exact List.pairwise_singleton _ slot
  | cons first rest ih =>
      rw [insertSlot]
      split
      next => exact h
      next hne =>
        split
        next hle =>
          have hbefore : slot.Before first := (Slot.atMost_iff.mp hle).resolve_right hne
          refine List.pairwise_cons.mpr ⟨fun other hother => ?_, h⟩
          rcases List.mem_cons.mp hother with rfl | hother
          · exact hbefore
          · exact hbefore.trans ((List.pairwise_cons.mp h).1 other hother)
        next hle =>
          have hafter : first.Before slot :=
            (Slot.atMost_iff.mp ((Slot.atMost_total slot first).resolve_left hle)).resolve_right
              (Ne.symm hne)
          rw [List.pairwise_cons] at h
          refine List.pairwise_cons.mpr ⟨fun other hother => ?_, ih h.2⟩
          rcases mem_insertSlot.mp hother with rfl | hother
          · exact hafter
          · exact h.1 other hother

theorem mem_foldr_insertSlot {slot : Slot} {slots : List Slot} :
    slot ∈ slots.foldr insertSlot [] ↔ slot ∈ slots := by
  induction slots with
  | nil => exact Iff.rfl
  | cons first rest ih => rw [List.foldr_cons, mem_insertSlot, ih, List.mem_cons]

theorem foldr_insertSlot_pairwise (slots : List Slot) :
    (slots.foldr insertSlot []).Pairwise Slot.Before := by
  induction slots with
  | nil => exact .nil
  | cons first rest ih => exact insertSlot_pairwise first ih

theorem collisions_pairwise (resources : List Resource) :
    (collisions resources).Pairwise fun a b => a.slot.Before b.slot := by
  refine (foldr_insertSlot_pairwise (resources.map Resource.slot)).filterMap _ ?_
  intro a a' hbefore b hb b' hb'
  dsimp only at hb hb'
  split at hb
  · split at hb'
    · cases hb
      cases hb'
      exact hbefore
    · cases hb'
  · cases hb

theorem mem_collisions_iff {resources : List Resource} {collision : Collision} :
    collision ∈ collisions resources ↔
      1 < (resources.filter fun resource => resource.slot = collision.slot).length ∧
      collision.names
        = (resources.filter fun resource => resource.slot = collision.slot).map (·.name) := by
  obtain ⟨slot, names⟩ := collision
  unfold collisions
  simp only [List.mem_filterMap, mem_foldr_insertSlot, List.length_map]
  constructor
  · rintro ⟨held, -, hsome⟩
    split at hsome
    next hseveral =>
      cases hsome
      exact ⟨hseveral, rfl⟩
    next => cases hsome
  · rintro ⟨hseveral, hnames⟩
    obtain ⟨resource, hmem⟩ := List.exists_mem_of_length_pos (Nat.zero_lt_of_lt hseveral)
    rw [List.mem_filter, decide_eq_true_eq] at hmem
    refine ⟨slot, List.mem_map.mpr ⟨resource, hmem⟩, ?_⟩
    rw [if_pos hseveral, hnames]

/-- The holders of a slot, in the order of the slots as well as in that of the declarations. -/
theorem filter_slot_placed (resources : List Resource) (slot : Slot) :
    (placed resources).filter (fun entry => entry.1.slot = slot)
      = (settled resources).filter fun entry => entry.1.slot = slot := by
  refine filter_sortBy (fun a b ha hb => ?_) _
  rw [decide_eq_true_eq] at ha hb
  exact Slot.atMost_iff.mpr (Or.inr (ha.trans hb.symm))

theorem mem_collisions_allocate_iff {resources : List Resource} {collision : Collision} :
    collision ∈ (allocate resources).2 ↔
      1 < ((placed resources).filter fun entry => entry.1.slot = collision.slot).length ∧
      collision.names
        = ((placed resources).filter fun entry => entry.1.slot = collision.slot).map
            (·.1.name) := by
  rw [allocate, mem_collisions_iff, filter_slot_placed, ← map_fst_settled, List.filter_map,
    List.length_map, List.map_map]
  rfl

/-- A resource that had no binding does not collide. -/
theorem length_filter_slot {resources : List Resource} {group : Int} {entry : Resource × Nat}
    (hentry : entry ∈ settled resources) (hauto : wasAutomatic resources group entry = true) :
    ((placed resources).filter fun other => other.1.slot = entry.1.slot).length ≤ 1 := by
  rw [filter_slot_placed]
  have hnodup : (settled resources).Nodup :=
    (settled_pairwise resources).imp fun {a b} hbefore => by
      rintro rfl
      unfold DeclaredBefore at hbefore
      omega
  have hsubset :
      (settled resources).filter (fun other => other.1.slot = entry.1.slot) ⊆ [entry] := by
    intro other hother
    rw [List.mem_filter, decide_eq_true_eq] at hother
    exact List.mem_singleton.mpr (eq_of_slot_eq hentry hother.1 hauto hother.2)
  exact (List.subperm_of_subset (hnodup.filter _) hsubset).length_le

end Collisions

/-! ## The allocation meets its specification -/

theorem allocate_isAllocation (resources : List Resource) :
    ∃ placed, (allocate resources).1 = placed.map (·.1) ∧
      IsAllocation resources placed (allocate resources).2 := by
  refine ⟨placed resources, (map_fst_placed resources).symm, ?_⟩
  constructor
  case positions =>
    have hsorted : ((placed resources).map (·.2)).Perm ((settled resources).map (·.2)) :=
      (sortBy_perm _ _).map _
    rw [map_snd_settled] at hsorted
    refine hsorted.trans (((sortBy_perm _ resources.zipIdx).map (·.2)).trans ?_)
    rw [List.zipIdx_map_snd, ← List.range_eq_range']
  case given =>
    intro entry hentry
    obtain ⟨resource, earlier, hgiven, hsettled⟩ :=
      exists_of_mem_settled (mem_placed_iff.mp hentry)
    refine ⟨resource, hgiven, ?_⟩
    rw [hsettled, Resource.settledBehind]
    cases hbinding : resource.binding with
    | some binding => exact ⟨rfl, fun _ h => hbinding.trans h⟩
    | none => exact ⟨rfl, fun _ h => absurd h (by simp)⟩
  case in_order =>
    intro group
    rw [filter_wasAutomatic_placed]
    exact (settled_pairwise resources).filter _
  case least_free =>
    intro group
    rw [filter_wasAutomatic_placed]
    exact binding_settled resources group
  case sorted => exact placed_pairwise resources
  case collisions_sorted => exact collisions_pairwise _
  case mem_collisions => exact fun collision => mem_collisions_allocate_iff
  case collisions_named =>
    intro collision hcollision entry hentry hslot group
    by_contra hauto
    have hone := length_filter_slot (mem_placed_iff.mp hentry) (Bool.not_eq_false _ ▸ hauto)
    rw [hslot] at hone
    have hseveral := (mem_collisions_allocate_iff.mp hcollision).1
    omega

end ShaderMarkup
