import Mathlib.Data.List.Forall2
import ShaderMarkup.Report.Fault
import ShaderMarkup.Report.Journal

/-!
# How computations end

A computation over a shader is a chain of steps, and the first step that fails ends it.  The lemmas
here take such a chain apart:

* `bind_eq_ok_iff` and `bind_eq_error_iff` split a chain behind its first step;
* `mapM_eq_ok_iff` and `mapM_eq_error_iff` do the same for a step that is done for every element of
  a list;
* `AbortsOnly p check` says that `check` ends in no abort but those with the property `p`; it is
  passed on from the steps to the chain;
* `Journal.result_bind` says that a journal's result is the chain of the results, so what is
  written on the way can be left aside.
-/

namespace ShaderMarkup

variable {ε α β : Type}

/-! ## Chains -/

/-- A chain succeeds when its first step does and the rest does from there. -/
theorem bind_eq_ok_iff {first : Except ε α} {next : α → Except ε β} {value : β} :
    (first >>= next) = .ok value ↔ ∃ a, first = .ok a ∧ next a = .ok value := by
  cases first with
  | error failure =>
      constructor
      · intro h
        cases h
      · rintro ⟨a, ha, _⟩
        cases ha
  | ok a =>
      constructor
      · intro h
        exact ⟨a, rfl, h⟩
      · rintro ⟨b, hb, h⟩
        cases hb
        exact h

/-- A chain fails in its first step, or behind it. -/
theorem bind_eq_error_iff {first : Except ε α} {next : α → Except ε β} {failure : ε} :
    (first >>= next) = .error failure ↔
      first = .error failure ∨ ∃ a, first = .ok a ∧ next a = .error failure := by
  cases first with
  | error other =>
      constructor
      · intro h
        cases h
        exact Or.inl rfl
      · rintro (h | ⟨a, ha, _⟩)
        · cases h
          rfl
        · cases ha
  | ok a =>
      constructor
      · intro h
        exact Or.inr ⟨a, rfl, h⟩
      · rintro (h | ⟨b, hb, h⟩)
        · cases h
        · cases hb
          exact h

@[simp] theorem pure_eq_ok (a : α) : (pure a : Except ε α) = .ok a :=
  rfl

@[simp] theorem bind_ok (a : α) (next : α → Except ε β) : (Except.ok a >>= next) = next a :=
  rfl

@[simp] theorem bind_error (failure : ε) (next : α → Except ε β) :
    (Except.error failure >>= next) = .error failure :=
  rfl

/-- A success is known by its value alone; equality of failures need not be decidable. -/
theorem eq_ok_of_toOption {outcome : Except ε α} {a : α} (h : outcome.toOption = some a) :
    outcome = .ok a := by
  cases outcome with
  | error failure => cases h
  | ok b =>
      cases h
      rfl

/-- A step done for every element succeeds when it does for each of them. -/
theorem mapM_eq_ok_iff {step : α → Except ε β} {items : List α} {values : List β} :
    items.mapM step = .ok values ↔
      List.Forall₂ (fun item value => step item = .ok value) items values := by
  induction items generalizing values with
  | nil =>
      rw [List.mapM_nil, pure_eq_ok, List.forall₂_nil_left_iff]
      constructor
      · intro h
        cases h
        rfl
      · rintro rfl
        rfl
  | cons item rest ih =>
      rw [List.mapM_cons, bind_eq_ok_iff]
      constructor
      · rintro ⟨value, hvalue, h⟩
        obtain ⟨others, hothers, h⟩ := bind_eq_ok_iff.mp h
        cases h
        exact .cons hvalue (ih.mp hothers)
      · intro h
        cases h with
        | cons hvalue hothers =>
            exact ⟨_, hvalue, bind_eq_ok_iff.mpr ⟨_, ih.mpr hothers, rfl⟩⟩

/-- What a run over a list gives: the value of the first element, and those of the others. -/
theorem exists_of_mapM_cons_eq_ok {step : α → Except ε β} {item : α} {rest : List α}
    {values : List β} (h : (item :: rest).mapM step = .ok values) :
    ∃ value others, values = value :: others ∧ step item = .ok value ∧
      rest.mapM step = .ok others := by
  obtain ⟨value, others, hvalue, hothers, rfl⟩ :=
    List.forall₂_cons_left_iff.mp (mapM_eq_ok_iff.mp h)
  exact ⟨value, others, rfl, hvalue, mapM_eq_ok_iff.mpr hothers⟩

/-- In lists that correspond, every element of the first has a partner in the second. -/
theorem exists_of_mem_of_forall₂ {related : α → β → Prop} {items : List α} {values : List β}
    (h : List.Forall₂ related items values) {item : α} (hmem : item ∈ items) :
    ∃ value ∈ values, related item value := by
  induction h with
  | nil => cases hmem
  | @cons first value rest others hfirst _ ih =>
      rcases List.mem_cons.mp hmem with rfl | hmem
      · exact ⟨value, List.mem_cons_self, hfirst⟩
      · obtain ⟨other, hother, hrelated⟩ := ih hmem
        exact ⟨other, List.mem_cons_of_mem _ hother, hrelated⟩

/-- A step that succeeds for every element gives each of them a value. -/
theorem exists_of_mem_of_mapM_eq_ok {step : α → Except ε β} {items : List α} {values : List β}
    (h : items.mapM step = .ok values) {item : α} (hmem : item ∈ items) :
    ∃ value ∈ values, step item = .ok value :=
  exists_of_mem_of_forall₂ (mapM_eq_ok_iff.mp h) hmem

/-- Every value of a step done for all elements is the value of one of them. -/
theorem exists_of_mem_values_of_mapM_eq_ok {step : α → Except ε β} {items : List α}
    {values : List β} (h : items.mapM step = .ok values) {value : β} (hmem : value ∈ values) :
    ∃ item ∈ items, step item = .ok value :=
  exists_of_mem_of_forall₂ (mapM_eq_ok_iff.mp h).flip hmem

/-- A step done for every element fails at the first element that it fails for. -/
theorem mapM_eq_error_iff {step : α → Except ε β} {items : List α} {failure : ε} :
    items.mapM step = .error failure ↔
      ∃ before item after, items = before ++ item :: after ∧
        (∀ other ∈ before, ∃ value, step other = .ok value) ∧ step item = .error failure := by
  induction items with
  | nil =>
      rw [List.mapM_nil, pure_eq_ok]
      constructor
      · intro h
        cases h
      · rintro ⟨before, item, after, h, _⟩
        simp at h
  | cons item rest ih =>
      rw [List.mapM_cons, bind_eq_error_iff]
      constructor
      · rintro (h | ⟨value, hvalue, h⟩)
        · exact ⟨[], item, rest, rfl, by simp, h⟩
        · rcases bind_eq_error_iff.mp h with h | ⟨_, _, h⟩
          · obtain ⟨before, culprit, after, hsplit, hbefore, hculprit⟩ := ih.mp h
            refine ⟨item :: before, culprit, after, by simp [hsplit], ?_, hculprit⟩
            intro other hother
            rcases List.mem_cons.mp hother with rfl | hother
            · exact ⟨value, hvalue⟩
            · exact hbefore other hother
          · cases h
      · rintro ⟨before, culprit, after, hsplit, hbefore, hculprit⟩
        cases before with
        | nil =>
            cases hsplit
            exact Or.inl hculprit
        | cons first before =>
            obtain ⟨rfl, hrest⟩ : item = first ∧ rest = before ++ culprit :: after := by
              simpa using hsplit
            obtain ⟨value, hvalue⟩ := hbefore item (by simp)
            refine Or.inr ⟨value, hvalue, bind_eq_error_iff.mpr (Or.inl (ih.mpr ?_))⟩
            exact ⟨before, culprit, after, hrest,
              fun other hother => hbefore other (by simp [hother]), hculprit⟩

/-- A step done for every element fails for one of them with the same failure. -/
theorem exists_of_mapM_eq_error {step : α → Except ε β} {items : List α} {failure : ε}
    (h : items.mapM step = .error failure) : ∃ item ∈ items, step item = .error failure := by
  obtain ⟨before, item, after, rfl, _, hitem⟩ := mapM_eq_error_iff.mp h
  exact ⟨item, by simp, hitem⟩

/-- Two steps that agree on every element give the same when done for all of them. -/
theorem mapM_congr {step other : α → Except ε β} {items : List α}
    (h : ∀ item ∈ items, step item = other item) : items.mapM step = items.mapM other := by
  induction items with
  | nil => rfl
  | cons item rest ih =>
      rw [List.mapM_cons, List.mapM_cons, h item (by simp),
        ih fun a ha => h a (List.mem_cons_of_mem _ ha)]

/-! ## Aborts -/

/-- Every abort that the computation can end with has the property. -/
def AbortsOnly (p : Abort → Prop) (check : Check α) : Prop :=
  ∀ cause, check = .error (.abort cause) → p cause

namespace AbortsOnly

variable {p : Abort → Prop}

theorem ok (a : α) : AbortsOnly p (.ok a : Check α) := by
  intro cause h
  cases h

theorem refuse (issue : Issue) : AbortsOnly p (ShaderMarkup.refuse issue : Check α) := by
  intro cause h
  cases h

theorem giveUp {cause : Abort} (hcause : p cause) :
    AbortsOnly p (ShaderMarkup.giveUp cause : Check α) := by
  intro cause h
  cases h
  exact hcause

theorem imp {q : Abort → Prop} {check : Check α} (h : AbortsOnly p check)
    (himp : ∀ cause, p cause → q cause) : AbortsOnly q check :=
  fun cause hcause => himp cause (h cause hcause)

theorem bind {first : Check α} {next : α → Check β} (hfirst : AbortsOnly p first)
    (hnext : ∀ a, first = .ok a → AbortsOnly p (next a)) : AbortsOnly p (first >>= next) := by
  intro cause h
  rcases bind_eq_error_iff.mp h with h | ⟨a, ha, h⟩
  · exact hfirst cause h
  · exact hnext a ha cause h

theorem mapM {step : α → Check β} {items : List α}
    (h : ∀ item ∈ items, AbortsOnly p (step item)) : AbortsOnly p (items.mapM step) := by
  intro cause hcause
  obtain ⟨item, hitem, hstep⟩ := exists_of_mapM_eq_error hcause
  exact h item hitem cause hstep

theorem located {check : Check α} (h : AbortsOnly p check) (line : Option Int)
    (source : Option Text) : AbortsOnly p (check.located line source) := by
  intro cause hcause
  unfold Check.located at hcause
  split at hcause
  next => cases hcause
  next fault =>
    cases fault with
    | issue report => cases hcause
    | abort other =>
        cases hcause
        exact h _ rfl

end AbortsOnly

/-! ## Journals -/

namespace Journal

@[simp] theorem result_pure (a : α) : (pure a : Journal ε α).result = .ok a :=
  rfl

@[simp] theorem result_ofExcept (result : Except ε α) : (ofExcept result).result = result :=
  rfl

@[simp] theorem result_write (entries : List LogEntry) :
    (write entries : Journal ε Unit).result = .ok () :=
  rfl

/-- The result of a chain of journals is the chain of their results. -/
@[simp] theorem result_bind (first : Journal ε α) (next : α → Journal ε β) :
    (first >>= next).result = first.result >>= fun a => (next a).result := by
  cases first with
  | mk entries result => cases result <;> rfl

theorem ofExcept_ok_bind (a : α) (next : α → Journal ε β) : (ofExcept (.ok a) >>= next) = next a :=
  rfl

/-- What follows writes behind what is written. -/
theorem mk_ok_bind (entries : List LogEntry) (a : α) (next : α → Journal ε β) :
    (Journal.mk entries (.ok a) >>= next) = ⟨entries ++ (next a).entries, (next a).result⟩ :=
  rfl

end Journal

end ShaderMarkup
