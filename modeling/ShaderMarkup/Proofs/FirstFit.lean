import Mathlib.Data.List.Perm.Subperm
import Mathlib.Data.Nat.Nth
import Mathlib.Data.Set.Finite.Basic
import ShaderMarkup.Slot.Allocation

/-!
# First fit

The allocation goes through the resources in the order of their declarations, and gives each one
without a binding the least that is free in its group.

* A binding is free in a group when no resource of the group names it (`IsFree`).  `freeBinding`
  counts the free ones, least first.
* `HasTaken` is the invariant of the loop: so far the group has used up its named bindings and a
  number of free ones, least first.  One step takes the next (`leastFree_eq_freeBinding`,
  `HasTaken.next`).
* So a resource without a binding gets the free binding whose number is that of the resources
  without a binding that are in front of it in its group (`assign_eq_mapIdx`).
-/

namespace ShaderMarkup

/-! ## The least free number -/

theorem exists_natCast_not_mem (taken : List Int) :
    ∃ n ∈ List.range (taken.length + 1), (n : Int) ∉ taken := by
  by_contra hall
  have hsubset : (List.range (taken.length + 1)).map (fun n : Nat => (n : Int)) ⊆ taken := by
    intro m hm
    obtain ⟨n, hn, rfl⟩ := List.mem_map.mp hm
    by_contra hfree
    exact hall ⟨n, hn, hfree⟩
  have hnodup : ((List.range (taken.length + 1)).map (fun n : Nat => (n : Int))).Nodup :=
    List.nodup_range.map fun _ _ => Int.ofNat_inj.mp
  have hlength := (List.subperm_of_subset hnodup hsubset).length_le
  rw [List.length_map, List.length_range] at hlength
  omega

theorem leastFree_spec (taken : List Int) :
    (leastFree taken : Int) ∉ taken ∧ ∀ n < leastFree taken, (n : Int) ∈ taken := by
  obtain ⟨witness, hrange, hfree⟩ := exists_natCast_not_mem taken
  cases hfind : (List.range (taken.length + 1)).find? fun n : Nat => (n : Int) ∉ taken with
  | none =>
      have hnone := List.find?_eq_none.mp hfind witness hrange
      exact absurd hfree (by simpa using hnone)
  | some least =>
      have hleast : leastFree taken = least := by rw [leastFree, hfind, Option.getD_some]
      obtain ⟨hnot, _, hbelow⟩ := List.find?_range_eq_some.mp hfind
      rw [hleast]
      refine ⟨by simpa using hnot, fun n hn => ?_⟩
      simpa using hbelow n hn

/-! ## Free bindings -/

/-- No resource of the group names the binding. -/
def IsFree (resources : List Resource) (group : Int) (n : Nat) : Prop :=
  ∀ resource ∈ resources, resource.group = group → resource.binding ≠ some (n : Int)

/-- The free bindings of a group, counted from the least. -/
noncomputable def freeBinding (resources : List Resource) (group : Int) (count : Nat) : Nat :=
  Nat.nth (IsFree resources group) count

section Free

variable {resources : List Resource} {group : Int}

theorem infinite_isFree (resources : List Resource) (group : Int) :
    (Set.ofPred (IsFree resources group)).Infinite := by
  have hfinite : (Set.ofPred (IsFree resources group))ᶜ.Finite := by
    refine (List.finite_toSet (resources.map fun resource =>
      resource.bindingNumber.toNat)).subset ?_
    intro n hn
    have hnamed : ¬ IsFree resources group n := hn
    unfold IsFree at hnamed
    push Not at hnamed
    obtain ⟨resource, hmem, _, hbinding⟩ := hnamed
    refine List.mem_map.mpr ⟨resource, hmem, ?_⟩
    rw [Resource.bindingNumber, hbinding, Option.getD_some, Int.toNat_natCast]
  have hinfinite := hfinite.infinite_compl
  rwa [compl_compl] at hinfinite

theorem isFree_freeBinding (count : Nat) :
    IsFree resources group (freeBinding resources group count) :=
  Nat.nth_mem_of_infinite (infinite_isFree resources group) count

theorem freeBinding_strictMono (resources : List Resource) (group : Int) :
    StrictMono (freeBinding resources group) :=
  Nat.nth_strictMono (infinite_isFree resources group)

theorem exists_freeBinding_eq {n : Nat} (h : IsFree resources group n) :
    ∃ count, freeBinding resources group count = n := by
  have hrange : n ∈ Set.range (Nat.nth (IsFree resources group)) := by
    rw [Nat.range_nth_of_infinite (infinite_isFree resources group)]
    exact h
  exact hrange

end Free

/-! ## One step of the loop -/

/-- So far the group has used up the bindings that resources name, and `count` free ones, least
first. -/
def HasTaken (resources : List Resource) (group : Int) (count : Nat) (taken : List Slot) : Prop :=
  ∀ n : Nat, (n : Int) ∈ bindingsIn group taken ↔
    ¬ IsFree resources group n ∨ ∃ earlier < count, freeBinding resources group earlier = n

section Step

variable {resources : List Resource} {group : Int} {count : Nat} {taken : List Slot}

theorem bindingsIn_cons (slot : Slot) (taken : List Slot) :
    bindingsIn group (slot :: taken)
      = if slot.group = group then slot.binding :: bindingsIn group taken
        else bindingsIn group taken := by
  unfold bindingsIn
  by_cases hgroup : slot.group = group
  · simp [hgroup]
  · simp [hgroup]

/-- At first the named bindings are taken. -/
theorem hasTaken_namedSlots (resources : List Resource) (group : Int) :
    HasTaken resources group 0 (namedSlots resources) := by
  intro n
  have hnamed : (n : Int) ∈ bindingsIn group (namedSlots resources) ↔
      ∃ resource ∈ resources, resource.group = group ∧ resource.binding = some (n : Int) := by
    simp only [bindingsIn, namedSlots, List.mem_map, List.mem_filter, List.mem_filterMap,
      Option.map_eq_some_iff, decide_eq_true_eq]
    constructor
    · rintro ⟨_, ⟨⟨resource, hmem, binding, hbinding, rfl⟩, hgroup⟩, rfl⟩
      exact ⟨resource, hmem, hgroup, hbinding⟩
    · rintro ⟨resource, hmem, hgroup, hbinding⟩
      exact ⟨⟨resource.group, n⟩, ⟨⟨resource, hmem, n, hbinding, rfl⟩, hgroup⟩, rfl⟩
  rw [hnamed]
  unfold IsFree
  push Not
  simp

/-- The least binding that is not taken is the next free one. -/
theorem leastFree_eq_freeBinding (h : HasTaken resources group count taken) :
    leastFree (bindingsIn group taken) = freeBinding resources group count := by
  obtain ⟨hnot, hbelow⟩ := leastFree_spec (bindingsIn group taken)
  rw [h, not_or, not_not] at hnot
  obtain ⟨hfree, hnew⟩ := hnot
  have hmono := freeBinding_strictMono resources group
  apply le_antisymm
  · by_contra hlt
    have htaken := (h _).mp (hbelow _ (not_le.mp hlt))
    rcases htaken with hnamed | ⟨earlier, hearlier, heq⟩
    · exact hnamed (isFree_freeBinding count)
    · have := hmono.injective heq
      omega
  · obtain ⟨place, hplace⟩ := exists_freeBinding_eq hfree
    rw [← hplace]
    apply hmono.monotone
    by_contra hlt
    exact hnew ⟨place, not_le.mp hlt, hplace⟩

/-- A step in the group takes the next free binding. -/
theorem HasTaken.next (h : HasTaken resources group count taken) :
    HasTaken resources group (count + 1) (⟨group, freeBinding resources group count⟩ :: taken) := by
  intro n
  rw [bindingsIn_cons, if_pos rfl, List.mem_cons, h n]
  constructor
  · rintro (heq | hnamed | ⟨earlier, hearlier, heq⟩)
    · exact Or.inr ⟨count, by omega, Int.ofNat_inj.mp heq.symm⟩
    · exact Or.inl hnamed
    · exact Or.inr ⟨earlier, by omega, heq⟩
  · rintro (hnamed | ⟨earlier, hearlier, heq⟩)
    · exact Or.inr (Or.inl hnamed)
    · by_cases hlast : earlier = count
      · subst hlast
        exact Or.inl (Int.ofNat_inj.mpr heq.symm)
      · exact Or.inr (Or.inr ⟨earlier, by omega, heq⟩)

/-- A step in another group takes nothing. -/
theorem HasTaken.other (h : HasTaken resources group count taken) {slot : Slot}
    (hslot : slot.group ≠ group) : HasTaken resources group count (slot :: taken) := by
  intro n
  rw [bindingsIn_cons, if_neg hslot]
  exact h n

end Step

/-! ## The whole loop -/

/-- The resource is of the group and has no binding yet. -/
def Resource.isAutomaticIn (group : Int) (resource : Resource) : Bool :=
  resource.binding.isNone && decide (resource.group = group)

/-- The resource with its binding: the one that it names, or else the free one whose number is that
of the resources without a binding that are in front of it in its group. -/
noncomputable def Resource.settledBehind (resources earlier : List Resource) (resource : Resource) :
    Resource :=
  match resource.binding with
  | some _ => resource
  | none =>
      { resource with
        binding := some (freeBinding resources resource.group
          (earlier.countP (Resource.isAutomaticIn resource.group)) : Int) }

theorem assign_eq_mapIdx_of_hasTaken {resources earlier rest : List Resource} {taken : List Slot}
    (h : ∀ group, HasTaken resources group (earlier.countP (Resource.isAutomaticIn group)) taken) :
    assign taken rest
      = rest.mapIdx fun place resource =>
        resource.settledBehind resources (earlier ++ rest.take place) := by
  induction rest generalizing earlier taken with
  | nil => rfl
  | cons resource rest ih =>
      -- Behind the first resource the loop goes on as behind one more earlier resource.
      have htail : ∀ place, earlier ++ (resource :: rest).take (place + 1)
          = (earlier ++ [resource]) ++ rest.take place := by
        intro place
        rw [List.take_succ_cons, List.append_assoc, List.singleton_append]
      rw [List.mapIdx_cons, List.take_zero, List.append_nil, assign]
      simp only [htail]
      cases hbinding : resource.binding with
      | some binding =>
          have hfirst : resource.settledBehind resources earlier = resource := by
            rw [Resource.settledBehind, hbinding]
          dsimp only
          rw [hfirst, ih]
          intro group
          have hcount : (earlier ++ [resource]).countP (Resource.isAutomaticIn group)
              = earlier.countP (Resource.isAutomaticIn group) := by
            simp [Resource.isAutomaticIn, hbinding]
          rw [hcount]
          exact h group
      | none =>
          have hfirst : resource.settledBehind resources earlier
              = { resource with
                  binding := some (leastFree (bindingsIn resource.group taken) : Int) } := by
            rw [Resource.settledBehind, hbinding, leastFree_eq_freeBinding (h resource.group)]
          dsimp only
          rw [hfirst, ih]
          intro group
          by_cases hgroup : resource.group = group
          · subst hgroup
            have hcount : (earlier ++ [resource]).countP (Resource.isAutomaticIn resource.group)
                = earlier.countP (Resource.isAutomaticIn resource.group) + 1 := by
              simp [Resource.isAutomaticIn, hbinding]
            rw [hcount, leastFree_eq_freeBinding (h resource.group)]
            exact (h resource.group).next
          · have hcount : (earlier ++ [resource]).countP (Resource.isAutomaticIn group)
                = earlier.countP (Resource.isAutomaticIn group) := by
              simp [Resource.isAutomaticIn, hgroup]
            rw [hcount]
            exact (h group).other hgroup

/-- The loop settles every resource behind those that are in front of it. -/
theorem assign_eq_mapIdx (resources ordered : List Resource) :
    assign (namedSlots resources) ordered
      = ordered.mapIdx fun place resource =>
        resource.settledBehind resources (ordered.take place) := by
  have h := @assign_eq_mapIdx_of_hasTaken resources [] ordered (namedSlots resources)
    (fun group => hasTaken_namedSlots resources group)
  simpa only [List.nil_append] using h

end ShaderMarkup
