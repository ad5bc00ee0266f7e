import ShaderMarkup.Slot.Allocation

/-!
# What the allocation of slots depends on

Slots are given away in the order of the declarations.

* Only that order counts, not the indices themselves: one more declaration somewhere, if it is no
  resource, moves no slot (`allocate_makeRoom`).
* The resources come out as they went in, but for their bindings and their order
  (`allocate_perm`).

The sorting underneath is stable (`filter_sortBy`, `pairwise_sortBy`).
-/

namespace ShaderMarkup

/-! ## Sorting -/

section Sorting

variable {α β : Type} {before : α → α → Bool} {after : β → β → Bool} {change : α → β}

theorem insertBy_map (h : ∀ a b, after (change a) (change b) = before a b) (a : α)
    (items : List α) :
    insertBy after (change a) (items.map change) = (insertBy before a items).map change := by
  induction items with
  | nil => rfl
  | cons b rest ih =>
      rw [List.map_cons, insertBy, insertBy, h]
      split
      · rfl
      · rw [ih, List.map_cons]

/-- Sorting does not look at what the order does not look at. -/
theorem sortBy_map (h : ∀ a b, after (change a) (change b) = before a b) (items : List α) :
    sortBy after (items.map change) = (sortBy before items).map change := by
  induction items with
  | nil => rfl
  | cons a rest ih => rw [List.map_cons, sortBy, sortBy, ih, insertBy_map h]

theorem insertBy_perm (before : α → α → Bool) (a : α) (items : List α) :
    (insertBy before a items).Perm (a :: items) := by
  induction items with
  | nil => exact .refl _
  | cons b rest ih =>
      rw [insertBy]
      split
      · exact .refl _
      · exact (ih.cons b).trans (.swap a b rest)

theorem sortBy_perm (before : α → α → Bool) (items : List α) :
    (sortBy before items).Perm items := by
  induction items with
  | nil => exact .refl _
  | cons a rest ih => exact (insertBy_perm before a _).trans (ih.cons a)

theorem filter_insertBy_of_neg {chosen : α → Bool} {a : α} (ha : chosen a = false)
    (items : List α) : (insertBy before a items).filter chosen = items.filter chosen := by
  induction items with
  | nil => simp [insertBy, ha]
  | cons b rest ih =>
      rw [insertBy]
      split
      · rw [List.filter_cons_of_neg (by simp [ha])]
      · rw [List.filter_cons, List.filter_cons, ih]

theorem filter_insertBy_of_pos {chosen : α → Bool} {a : α} (ha : chosen a = true)
    {items : List α} (hfirst : ∀ b ∈ items, chosen b = true → before a b = true) :
    (insertBy before a items).filter chosen = a :: items.filter chosen := by
  induction items with
  | nil => simp [insertBy, ha]
  | cons b rest ih =>
      rw [List.forall_mem_cons] at hfirst
      rw [insertBy]
      split
      next => rw [List.filter_cons_of_pos ha]
      next hbefore =>
        have hb : ¬ chosen b = true := fun hb => hbefore (hfirst.1 hb)
        rw [List.filter_cons_of_neg hb, List.filter_cons_of_neg hb, ih hfirst.2]

/-- Elements that need not follow one another keep their order. -/
theorem filter_sortBy {chosen : α → Bool}
    (h : ∀ a b, chosen a = true → chosen b = true → before a b = true) (items : List α) :
    (sortBy before items).filter chosen = items.filter chosen := by
  induction items with
  | nil => rfl
  | cons a rest ih =>
      rw [sortBy]
      cases ha : chosen a with
      | false => rw [filter_insertBy_of_neg ha, ih, List.filter_cons_of_neg (by simp [ha])]
      | true =>
          rw [filter_insertBy_of_pos ha fun b _ hb => h a b ha hb, ih, List.filter_cons_of_pos ha]

section Order

variable {earlier : α → α → Prop} (htotal : ∀ a b, before a b = true ∨ before b a = true)
  (htrans : ∀ a b c, before a b = true → before b c = true → before a c = true)

include htotal htrans

theorem pairwise_insertBy {a : α} {items : List α}
    (hsorted : items.Pairwise fun b c => before b c = true ∧ (before c b = true → earlier b c))
    (hearlier : ∀ b ∈ items, earlier a b) :
    (insertBy before a items).Pairwise
      fun b c => before b c = true ∧ (before c b = true → earlier b c) := by
  induction items with
  | nil => exact List.pairwise_singleton _ a
  | cons b rest ih =>
      rw [List.pairwise_cons] at hsorted
      rw [insertBy]
      split
      next hbefore =>
        refine List.pairwise_cons.mpr ⟨fun c hc => ⟨?_, fun _ => hearlier c hc⟩,
          List.pairwise_cons.mpr hsorted⟩
        rcases List.mem_cons.mp hc with rfl | hc
        · exact hbefore
        · exact htrans a b c hbefore (hsorted.1 c hc).1
      next hbefore =>
        rw [List.forall_mem_cons] at hearlier
        refine List.pairwise_cons.mpr ⟨fun c hc => ?_, ih hsorted.2 hearlier.2⟩
        rcases List.mem_cons.mp ((insertBy_perm before a rest).mem_iff.mp hc) with rfl | hc
        · exact ⟨(htotal c b).resolve_left hbefore, fun h => absurd h hbefore⟩
        · exact hsorted.1 c hc

/-- A sorted list is in order, and elements that need not follow one another are in the order that
they had. -/
theorem pairwise_sortBy {items : List α} (h : items.Pairwise earlier) :
    (sortBy before items).Pairwise
      fun a b => before a b = true ∧ (before b a = true → earlier a b) := by
  induction items with
  | nil => exact .nil
  | cons a rest ih =>
      rw [List.pairwise_cons] at h
      refine pairwise_insertBy htotal htrans (ih h.2) fun b hb => ?_
      exact h.1 b ((sortBy_perm before rest).mem_iff.mp hb)

end Order

end Sorting

/-! ## One more declaration -/

/-- The index of a declaration when one more stands at a place. -/
def makeRoom (place : Nat) (index : Int) : Int :=
  if index < place then index else index + 1

theorem makeRoom_le_makeRoom {place : Nat} {a b : Int} :
    makeRoom place a ≤ makeRoom place b ↔ a ≤ b := by
  unfold makeRoom
  split <;> split <;> omega

/-- The resource when one more declaration stands at a place. -/
def Resource.makeRoom (place : Nat) (resource : Resource) : Resource :=
  { resource with declarationIndex := ShaderMarkup.makeRoom place resource.declarationIndex }

section MakeRoom

variable (place : Nat)

@[simp] theorem Resource.name_makeRoom (resource : Resource) :
    (resource.makeRoom place).name = resource.name :=
  rfl

@[simp] theorem Resource.usedInBody_makeRoom (resource : Resource) :
    (resource.makeRoom place).usedInBody = resource.usedInBody :=
  rfl

@[simp] theorem Resource.slot_makeRoom (resource : Resource) :
    (resource.makeRoom place).slot = resource.slot :=
  rfl

theorem namedSlots_makeRoom (resources : List Resource) :
    namedSlots (resources.map (·.makeRoom place)) = namedSlots resources := by
  unfold namedSlots
  rw [List.filterMap_map]
  rfl

theorem assign_makeRoom (taken : List Slot) (resources : List Resource) :
    assign taken (resources.map (·.makeRoom place))
      = (assign taken resources).map (·.makeRoom place) := by
  induction resources generalizing taken with
  | nil => rfl
  | cons resource rest ih =>
      have hbinding : (resource.makeRoom place).binding = resource.binding := rfl
      rw [List.map_cons, assign, assign, hbinding]
      cases resource.binding with
      | some binding => rw [ih, List.map_cons]
      | none =>
          dsimp only
          rw [ih, List.map_cons]
          rfl

theorem collisions_makeRoom (resources : List Resource) :
    collisions (resources.map (·.makeRoom place)) = collisions resources := by
  have hholders : ∀ slot : Slot,
      ((resources.map (·.makeRoom place)).filter fun resource => resource.slot = slot).map (·.name)
        = (resources.filter fun resource => resource.slot = slot).map (·.name) := by
    intro slot
    rw [List.filter_map, List.map_map]
    rfl
  unfold collisions
  simp only [hholders, List.map_map]
  rfl

/-- One more declaration that is no resource moves no slot. -/
theorem allocate_makeRoom (resources : List Resource) :
    allocate (resources.map (·.makeRoom place))
      = ((allocate resources).1.map (·.makeRoom place), (allocate resources).2) := by
  have hassigned : assigned (resources.map (·.makeRoom place))
      = (assigned resources).map (·.makeRoom place) := by
    unfold assigned
    rw [namedSlots_makeRoom, ← assign_makeRoom, sortBy_map]
    intro a b
    exact decide_eq_decide.mpr makeRoom_le_makeRoom
  unfold allocate
  dsimp only
  rw [hassigned, collisions_makeRoom, sortBy_map]
  exact fun a b => rfl

end MakeRoom

/-! ## Bindings -/

/-- The resource without its binding. -/
def Resource.unbound (resource : Resource) : Resource :=
  { resource with binding := none }

/-- Resources that differ in nothing but their bindings. -/
theorem Resource.eq_of_unbound_eq {a b : Resource} (h : a.unbound = b.unbound) :
    a = { b with binding := a.binding } := by
  obtain ⟨name, group, binding, index, used, wildcards, detail⟩ := a
  obtain ⟨name', group', binding', index', used', wildcards', detail'⟩ := b
  simp only [Resource.unbound, Resource.mk.injEq] at h
  obtain ⟨rfl, rfl, -, rfl, rfl, rfl, rfl⟩ := h
  rfl

theorem assign_unbound (taken : List Slot) (resources : List Resource) :
    (assign taken resources).map Resource.unbound = resources.map Resource.unbound := by
  induction resources generalizing taken with
  | nil => rfl
  | cons resource rest ih =>
      rw [assign]
      split
      · rw [List.map_cons, List.map_cons, ih]
      · dsimp only
        rw [List.map_cons, List.map_cons, ih]
        rfl

/-- The allocation changes nothing but bindings and the order of the resources. -/
theorem allocate_perm (resources : List Resource) :
    ((allocate resources).1.map Resource.unbound).Perm (resources.map Resource.unbound) := by
  have hassigned : ((allocate resources).1.map Resource.unbound).Perm
      ((assigned resources).map Resource.unbound) := (sortBy_perm _ _).map _
  rw [assigned, assign_unbound] at hassigned
  exact hassigned.trans ((sortBy_perm _ _).map _)

theorem map_name_allocate_perm (resources : List Resource) :
    ((allocate resources).1.map (·.name)).Perm (resources.map (·.name)) := by
  have hperm := (allocate_perm resources).map (·.name)
  rwa [List.map_map, List.map_map] at hperm

theorem exists_binding_of_mem_assign {taken : List Slot} {resources : List Resource}
    {resource : Resource} (h : resource ∈ assign taken resources) :
    ∃ binding, resource.binding = some binding := by
  induction resources generalizing taken with
  | nil => cases h
  | cons first rest ih =>
      rw [assign] at h
      split at h
      next binding hbinding =>
        rcases List.mem_cons.mp h with rfl | h
        · exact ⟨binding, hbinding⟩
        · exact ih h
      next =>
        rcases List.mem_cons.mp h with rfl | h
        · exact ⟨_, rfl⟩
        · exact ih h

/-- Every resource comes out with a binding. -/
theorem exists_binding_of_mem_allocate {resources : List Resource} {resource : Resource}
    (h : resource ∈ (allocate resources).1) : ∃ binding, resource.binding = some binding :=
  exists_binding_of_mem_assign ((sortBy_perm _ _).mem_iff.mp h)

end ShaderMarkup
