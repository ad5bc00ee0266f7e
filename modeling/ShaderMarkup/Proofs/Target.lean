import ShaderMarkup.Proofs.Entry

/-!
# What a fragment entry point draws to

The resources of a shader have one say in its fragment entry point: a resource that the shader uses
and that has the name of the target refuses the target.  So the entry point is read without the
resources, and then accepted or refused by that name alone (`fragmentEntry_eq_unlessUsed`), and two
lists of resources lead to the same outcome if they agree on it (`fragmentEntry_eq_iff`).

The canvas has no name of its own, it is a target that is called `canvas`.  A resource of that name
is taken for it, whatever its kind.
-/

namespace ShaderMarkup

/-- Whether the shader uses a resource of that name. -/
def usesResource (resources : List Resource) (name : Text) : Bool :=
  resources.any fun resource => resource.name = name && resource.usedInBody

theorem checkTarget_eq (resources : List Resource) (target : Text) :
    checkTarget resources target
      = if usesResource resources target then refuse (.targetInUse target) else .ok () := by
  unfold checkTarget usesResource
  cases hfind : resources.find? fun resource => resource.name = target && resource.usedInBody with
  | none =>
      have hunused : (resources.any fun resource =>
          resource.name = target && resource.usedInBody) = false := by
        rw [List.find?_eq_none] at hfind
        exact List.any_eq_false.mpr hfind
      rw [hunused]
      rfl
  | some resource =>
      have hresource := List.find?_some hfind
      have hused : (resources.any fun resource =>
          resource.name = target && resource.usedInBody) = true :=
        List.any_eq_true.mpr ⟨resource, List.mem_of_find?_eq_some hfind, hresource⟩
      have hname : resource.name = target := by
        simpa using (Bool.and_eq_true_iff.mp hresource).1
      rw [hused, ← hname]
      rfl

section Target

variable {context : Context} {fragment : Call}

/-- The entry point is the one without resources, unless its target is in use. -/
theorem fragmentEntry_eq_unlessUsed (h : entryCall? context.code "fragment" = some fragment)
    (resources : List Resource) :
    fragmentEntry context resources = (do
      let entry ← fragmentEntry context []
      if usesResource resources entry.targetView then
        blaming context.code fragment (refuse (.targetInUse entry.targetView))
      else .ok entry) := by
  unfold fragmentEntry
  rw [h]
  dsimp only
  cases fragmentTarget context fragment.value with
  | error fault => rfl
  | ok target =>
      cases hresolve : addResolve context.code target with
      | error fault => simp [hresolve, bind, Except.bind, blaming, Check.located]
      | ok entry =>
          have haccepted : (blaming context.code fragment do
              checkTarget [] entry.targetView
              pure entry) = .ok entry := rfl
          simp only [bind_ok, hresolve]
          rw [haccepted, bind_ok, checkTarget_eq]
          cases usesResource resources entry.targetView <;> rfl

/-- A refused target is no entry point. -/
theorem blaming_refuse_ne_ok {issue : Issue} {entry : FragmentEntry} :
    blaming context.code fragment (refuse issue) ≠ .ok entry := by
  rw [ne_eq, blaming_eq_ok_iff]
  simp [refuse]

/-- Two lists of resources have the same outcome if they agree on the use of the target. -/
theorem fragmentEntry_eq_iff (h : entryCall? context.code "fragment" = some fragment)
    (first second : List Resource) :
    fragmentEntry context first = fragmentEntry context second ↔
      ∀ entry, fragmentEntry context [] = .ok entry →
        usesResource first entry.targetView = usesResource second entry.targetView := by
  rw [fragmentEntry_eq_unlessUsed h first, fragmentEntry_eq_unlessUsed h second]
  cases fragmentEntry context [] with
  | error fault => simp
  | ok entry =>
      simp only [bind_ok, Except.ok.injEq, forall_eq']
      cases usesResource first entry.targetView <;> cases usesResource second entry.targetView
      · simp
      · simp [blaming_refuse_ne_ok.symm]
      · simp [blaming_refuse_ne_ok]
      · simp

/-- A `@resolve` leaves the target as it is. -/
theorem targetView_of_addResolve {code : Text} {target entry : FragmentEntry}
    (h : addResolve code target = .ok entry) : entry.targetView = target.targetView := by
  unfold addResolve at h
  split at h
  · cases h
    rfl
  · dsimp only at h
    split at h
    · cases h
    · split at h
      · cases h
      · cases h
        rfl

/-- The canvas is a target that is called `canvas`. -/
theorem targetView_of_leadingCanvas? {canvas : Decorator} {entry : FragmentEntry}
    {resources : List Resource} (h : entryCall? context.code "fragment" = some fragment)
    (hcanvas : leadingCanvas? fragment.value.trimmedArgument = some canvas)
    (hentry : fragmentEntry context resources = .ok entry) :
    entry.targetView = "canvas".toList := by
  unfold fragmentEntry at hentry
  rw [h] at hentry
  have hread := blaming_eq_ok_iff.mp hentry
  obtain ⟨target, htarget, hread⟩ := bind_eq_ok_iff.mp hread
  obtain ⟨resolved, hresolved, hread⟩ := bind_eq_ok_iff.mp hread
  obtain ⟨_, _, hread⟩ := bind_eq_ok_iff.mp hread
  cases hread
  unfold fragmentTarget at htarget
  dsimp only at htarget
  rw [hcanvas] at htarget
  obtain ⟨size, _, htarget⟩ := bind_eq_ok_iff.mp htarget
  cases htarget
  exact targetView_of_addResolve hresolved

/-- Where the target is the canvas, two lists of resources have the same outcome exactly if the
canvas is refused anyway, or if they agree on the use of a resource called `canvas`. -/
theorem fragmentEntry_canvas_eq_iff {canvas : Decorator}
    (h : entryCall? context.code "fragment" = some fragment)
    (hcanvas : leadingCanvas? fragment.value.trimmedArgument = some canvas)
    (first second : List Resource) :
    fragmentEntry context first = fragmentEntry context second ↔
      (∃ fault, fragmentEntry context [] = .error fault) ∨
        usesResource first "canvas".toList = usesResource second "canvas".toList := by
  rw [fragmentEntry_eq_iff h]
  cases hentry : fragmentEntry context [] with
  | error fault => simp
  | ok entry => simp [targetView_of_leadingCanvas? h hcanvas hentry]

end Target

/-- A source that draws to the canvas and uses something of that name. -/
def canvasContext : Context :=
  .ofCode "@fragment(@canvas(8, 8)) fn main() \x7b canvas; \x7d".toList [] {}

def canvasCall : Call :=
  ⟨⟨"fragment".toList, some "@canvas(8, 8)".toList, true⟩, 0, 24⟩

/-- A sampler that is used under a name. -/
def usedSampler (name : String) : Resource where
  name := name.toList
  usedInBody := true
  detail := .sampler {}

theorem fragmentEntry_canvas_eq_iff_usedSampler :
    entryCall? canvasContext.code "fragment" = some canvasCall ∧
      leadingCanvas? canvasCall.value.trimmedArgument
        = some ⟨"canvas".toList, some "8, 8".toList, true⟩ ∧
      fragmentEntry canvasContext [usedSampler "paint"] = fragmentEntry canvasContext [] := by
  have hcall : entryCall? canvasContext.code "fragment" = some canvasCall := by decide +kernel
  have hcanvas : leadingCanvas? canvasCall.value.trimmedArgument
      = some ⟨"canvas".toList, some "8, 8".toList, true⟩ := by decide +kernel
  exact ⟨hcall, hcanvas, (fragmentEntry_canvas_eq_iff hcall hcanvas _ _).mpr (Or.inr rfl)⟩

/-- The canvas is refused for a sampler that has its name. -/
theorem canvas_refused_for_name :
    leadingCanvas? canvasCall.value.trimmedArgument
      = some ⟨"canvas".toList, some "8, 8".toList, true⟩ ∧
    fragmentEntry canvasContext []
      = .ok { targetView := "canvas".toList, isCanvas := true, canvasSize := some (8, 8) } ∧
    fragmentEntry canvasContext [usedSampler "canvas"]
      = blaming canvasContext.code canvasCall (refuse (.targetInUse "canvas".toList)) := by
  have hcall : entryCall? canvasContext.code "fragment" = some canvasCall := by decide +kernel
  have hentry : fragmentEntry canvasContext []
      = .ok { targetView := "canvas".toList, isCanvas := true, canvasSize := some (8, 8) } :=
    eq_ok_of_toOption (by decide +kernel)
  refine ⟨by decide +kernel, hentry, ?_⟩
  rw [fragmentEntry_eq_unlessUsed hcall, hentry]
  rfl

end ShaderMarkup
