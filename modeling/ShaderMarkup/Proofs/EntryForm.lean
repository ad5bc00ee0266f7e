import ShaderMarkup.Proofs.Target
import ShaderMarkup.Proofs.WellFormed

/-!
# Compiled entry points are well-formed

What a shader says about its entry point has gone through an evaluation, or comes from the settings,
or is a default.  Whatever the way was, the entry point of a source that compiles can be dispatched:
threads and workgroups spread over one to three axes and have a positive length along each, a canvas
is neither empty nor too large, and a target is a name that the shader does not read from.

* `Extent.SpreadsOver` is what the thread count and the size of a workgroup share.  Components that
  are filled up have it (`Extent.spreadsOver_ofList`), and so have the default sizes.
* A fragment entry point is made in three steps.  `fragmentTarget` gives it its form, and neither
  the `@resolve` nor the check of the resources takes it away (`FragmentEntry.IsWellFormed.addResolve`).
-/

namespace ShaderMarkup

/-! ## What well-formed means -/

/-- The lengths along the three axes. -/
def Extent.lengths (extent : Extent) : List Int :=
  [extent.x, extent.y, extent.z]

/-- The extent is positive along every axis, and one along the axes behind the first ones. -/
structure Extent.SpreadsOver (dimensions : Int) (extent : Extent) : Prop where
  positive : ∀ length ∈ extent.lengths, 1 ≤ length
  flat : ∀ axis : Nat, dimensions ≤ axis → ∀ length ∈ extent.lengths[axis]?, length = 1

structure ComputeEntry.IsWellFormed (entry : ComputeEntry) : Prop where
  dimensionality : 1 ≤ entry.dimensionality ∧ entry.dimensionality ≤ 3
  threadCount : entry.threadCount.SpreadsOver entry.dimensionality
  workgroupSize : entry.workgroupSize.SpreadsOver entry.dimensionality

/-- The form of a fragment entry point, where a canvas has sides of at most `most`. -/
structure FragmentEntry.IsWellFormed (most : Int) (entry : FragmentEntry) : Prop where
  canvas : entry.isCanvas = true → entry.resolveTarget = none ∧
    ∃ width height, entry.canvasSize = some (width, height) ∧
      (1 ≤ width ∧ width ≤ most) ∧ 1 ≤ height ∧ height ≤ most
  texture : entry.isCanvas = false → entry.canvasSize = none ∧
    Reader.IsIdentifier entry.targetView ∧
    ∀ target ∈ entry.resolveTarget, Reader.IsIdentifier target

/-- The entry point fits the kind of the shader and is well-formed, and a texture that a fragment
shader draws to is none of the resources that it uses. -/
def Shader.HasWellFormedEntry (settings : Settings) (shader : Shader) : Prop :=
  match shader.entry with
  | none => shader.kind = .resource
  | some (.compute entry) => shader.kind = .compute ∧ entry.IsWellFormed
  | some (.fragment entry) => shader.kind = .fragment ∧
      entry.IsWellFormed settings.maxCanvasSize ∧
      (entry.isCanvas = false → ∀ resource ∈ shader.resources,
        resource.name = entry.targetView → resource.usedInBody = false)

/-! ## Threads and workgroups -/

theorem mapM_positiveInteger {what : Text} {values : List Number} {numbers : List Int}
    (h : values.mapM (positiveInteger what) = .ok numbers) :
    numbers.length = values.length ∧ ∀ number ∈ numbers, 1 ≤ number := by
  refine ⟨(mapM_eq_ok_iff.mp h).length_eq.symm, fun number hnumber => ?_⟩
  obtain ⟨value, -, hvalue⟩ := exists_of_mem_values_of_mapM_eq_ok h hnumber
  exact one_le_of_positiveInteger hvalue

/-- Components are filled up with ones. -/
theorem Extent.spreadsOver_ofList {components : List Int} {dimensions : Int}
    (hpositive : ∀ component ∈ components, 1 ≤ component)
    (hlength : components.length ≤ dimensions) :
    (Extent.ofList components).SpreadsOver dimensions := by
  have hone : ∀ axis, 1 ≤ components.getD axis 1 := by
    intro axis
    rw [List.getD_eq_getElem?_getD]
    cases hget : components[axis]? with
    | none => exact Int.le_refl 1
    | some component => exact hpositive component (List.mem_of_getElem? hget)
  have hmissing : ∀ axis : Nat, dimensions ≤ axis → components.getD axis 1 = 1 :=
    fun axis haxis => List.getD_eq_default _ _ (by omega)
  constructor
  case positive =>
    intro length hmem
    rw [lengths, ofList] at hmem
    simp only [List.mem_cons, List.not_mem_nil, or_false] at hmem
    rcases hmem with rfl | rfl | rfl <;> exact hone _
  case flat =>
    intro axis haxis length hmem
    rw [Option.mem_def, lengths, ofList] at hmem
    rcases axis with _ | _ | _ | axis
    · cases hmem
      exact hmissing 0 haxis
    · cases hmem
      exact hmissing 1 haxis
    · cases hmem
      exact hmissing 2 haxis
    · cases hmem

theorem spreadsOver_defaultWorkgroup {dimensions : Nat} (hleast : 1 ≤ dimensions)
    (hmost : dimensions ≤ 3) : (defaultWorkgroup dimensions).SpreadsOver dimensions := by
  obtain rfl | rfl | rfl : dimensions = 1 ∨ dimensions = 2 ∨ dimensions = 3 := by omega
  · exact @Extent.spreadsOver_ofList [64] 1 (by decide) (by decide)
  · exact @Extent.spreadsOver_ofList [8, 8] 2 (by decide) (by decide)
  · exact @Extent.spreadsOver_ofList [4, 4, 4] 3 (by decide) (by decide)

section Entry

variable {context : Context}

theorem threadCounts_eq_ok {compute : Decorator} {counts : List Int}
    (h : threadCounts context compute = .ok counts) :
    (1 ≤ counts.length ∧ counts.length ≤ 3) ∧ ∀ count ∈ counts, 1 ≤ count := by
  unfold threadCounts at h
  split at h
  · cases h
  · obtain ⟨values, hvalues, h⟩ := bind_eq_ok_iff.mp h
    split at h
    · cases h
    next hfew =>
      obtain ⟨hlength, hpositive⟩ := mapM_positiveInteger h
      have hsome : values.length ≠ 0 := by
        simpa using (evaluate_eq_ok hvalues).1
      exact ⟨by omega, hpositive⟩

theorem workgroupSize_eq_ok {dimensions : Nat} {workgroup : Decorator} {size : Extent}
    (h : workgroupSize context dimensions workgroup = .ok size) :
    size.SpreadsOver dimensions := by
  obtain ⟨values, -, h⟩ := bind_eq_ok_iff.mp h
  split at h
  · cases h
  next hfew =>
    obtain ⟨components, hcomponents, h⟩ := bind_eq_ok_iff.mp h
    cases h
    obtain ⟨hlength, hpositive⟩ := mapM_positiveInteger hcomponents
    exact Extent.spreadsOver_ofList hpositive (by omega)

theorem ComputeEntry.isWellFormed_of_computeEntry {entry : ComputeEntry}
    (h : computeEntry context = .ok entry) : entry.IsWellFormed := by
  unfold computeEntry at h
  split at h
  · cases h
  · obtain ⟨counts, hcounts, h⟩ := bind_eq_ok_iff.mp h
    obtain ⟨⟨hleast, hmost⟩, hpositive⟩ := threadCounts_eq_ok (blaming_eq_ok_iff.mp hcounts)
    have hform : ∀ size : Extent, size.SpreadsOver counts.length →
        IsWellFormed ⟨counts.length, size, Extent.ofList counts⟩ := fun size hsize =>
      ⟨⟨by dsimp only; omega, by dsimp only; omega⟩,
        Extent.spreadsOver_ofList hpositive (Int.le_refl _), hsize⟩
    dsimp only at h
    split at h
    · cases h
      exact hform _ (spreadsOver_defaultWorkgroup hleast hmost)
    · obtain ⟨size, hsize, h⟩ := bind_eq_ok_iff.mp h
      cases h
      exact hform size (workgroupSize_eq_ok (blaming_eq_ok_iff.mp hsize))

/-! ## Targets -/

theorem canvasSide_eq_ok {most : Int} {label lower : String} {value : Number} {length : Int}
    (h : canvasSide most label lower value = .ok length) : 1 ≤ length ∧ length ≤ most := by
  obtain ⟨n, hn, h⟩ := bind_eq_ok_iff.mp h
  split at h
  · cases h
  next hmost =>
    cases h
    exact ⟨one_le_of_positiveInteger hn, Int.not_lt.mp hmost⟩

theorem canvasSize_eq_ok {most : Int} {values : List Number} {width height : Int}
    (h : canvasSize most values = .ok (width, height)) :
    (1 ≤ width ∧ width ≤ most) ∧ 1 ≤ height ∧ height ≤ most := by
  unfold canvasSize at h
  split at h
  · obtain ⟨w, hwidth, h⟩ := bind_eq_ok_iff.mp h
    obtain ⟨l, hheight, h⟩ := bind_eq_ok_iff.mp h
    cases h
    exact ⟨canvasSide_eq_ok hwidth, canvasSide_eq_ok hheight⟩
  · cases h

theorem blamingCanvas_eq_ok {α : Type} {check : Check α} {value : α}
    (h : blamingCanvas check = .ok value) : check = .ok value := by
  unfold blamingCanvas at h
  split at h
  · cases h
  · exact h

/-- The size of a canvas has passed its check, whether it is written or that of the viewport. -/
theorem exists_of_canvasOf {canvas : Decorator} {size : Int × Int}
    (h : canvasOf context canvas = .ok size) :
    ∃ values, canvasSize context.settings.maxCanvasSize values = .ok size := by
  unfold canvasOf at h
  dsimp only at h
  split at h
  · obtain ⟨values, -, h⟩ := bind_eq_ok_iff.mp (blamingCanvas_eq_ok h)
    exact ⟨values, h⟩
  · split at h
    · cases h
    · exact ⟨_, h⟩

theorem Reader.isIdentifier_of_whole {text name : Text}
    (h : Reader.whole Reader.identifier text = some name) : Reader.IsIdentifier name := by
  unfold Reader.whole at h
  split at h
  next hread =>
    cases h
    exact (Reader.identifier_eq_some_iff.mp hread).1
  next => cases h

theorem FragmentEntry.isWellFormed_of_fragmentTarget {fragment : Decorator} {entry : FragmentEntry}
    (h : fragmentTarget context fragment = .ok entry) :
    entry.IsWellFormed context.settings.maxCanvasSize := by
  unfold fragmentTarget at h
  dsimp only at h
  split at h
  · obtain ⟨⟨width, height⟩, hsize, h⟩ := bind_eq_ok_iff.mp h
    cases h
    obtain ⟨values, hvalues⟩ := exists_of_canvasOf hsize
    exact ⟨fun _ => ⟨rfl, width, height, rfl, canvasSize_eq_ok hvalues⟩, Bool.noConfusion⟩
  · split at h
    next hname =>
      cases h
      exact ⟨Bool.noConfusion, fun _ => ⟨rfl, Reader.isIdentifier_of_whole hname, by simp⟩⟩
    next => cases h

/-- A `@resolve` is added to a texture, and never to a canvas. -/
theorem FragmentEntry.IsWellFormed.addResolve {most : Int} {code : Text}
    {target entry : FragmentEntry} (htarget : target.IsWellFormed most)
    (h : addResolve code target = .ok entry) : entry.IsWellFormed most := by
  unfold ShaderMarkup.addResolve at h
  split at h
  · cases h
    exact htarget
  · dsimp only at h
    split at h
    · cases h
    next name hname =>
      split at h
      · cases h
      next hcanvas =>
        cases h
        obtain ⟨-, hview, -⟩ := htarget.texture (by simpa using hcanvas)
        refine ⟨Bool.noConfusion, fun _ => ⟨rfl, hview, ?_⟩⟩
        rintro _ ⟨⟩
        exact Reader.isIdentifier_of_whole hname

theorem usedInBody_of_checkTarget {resources : List Resource} {target : Text}
    (h : checkTarget resources target = .ok ()) :
    ∀ resource ∈ resources, resource.name = target → resource.usedInBody = false := by
  rw [checkTarget_eq] at h
  split at h
  · cases h
  next hunused =>
    intro resource hmem hname
    have hnone := List.any_eq_false.mp (Bool.eq_false_iff.mpr hunused) resource hmem
    simpa [hname] using hnone

theorem FragmentEntry.isWellFormed_of_fragmentEntry {resources : List Resource}
    {entry : FragmentEntry} (h : fragmentEntry context resources = .ok entry) :
    entry.IsWellFormed context.settings.maxCanvasSize ∧
      ∀ resource ∈ resources, resource.name = entry.targetView → resource.usedInBody = false := by
  unfold fragmentEntry at h
  split at h
  · cases h
  · obtain ⟨target, htarget, h⟩ := bind_eq_ok_iff.mp (blaming_eq_ok_iff.mp h)
    obtain ⟨resolved, hresolved, h⟩ := bind_eq_ok_iff.mp h
    obtain ⟨_, hchecked, h⟩ := bind_eq_ok_iff.mp h
    cases h
    exact ⟨(isWellFormed_of_fragmentTarget htarget).addResolve hresolved,
      usedInBody_of_checkTarget hchecked⟩

end Entry

/-! ## Whole sources -/

/-- The entry point of every source that compiles is well-formed. -/
theorem compile_hasWellFormedEntry {source : Text} {environment : Environment}
    {settings : Settings} {shader : Shader}
    (h : (compile source environment settings).result = .ok shader) :
    shader.HasWellFormedEntry settings := by
  have hentry := (compile_eq_ok_iff.mp h).entry_eq
  unfold Shader.HasWellFormedEntry
  cases hkind : shader.kind with
  | compute =>
      rw [hkind] at hentry
      obtain ⟨entry, hcompute, hsome⟩ := bind_eq_ok_iff.mp hentry
      rw [← Except.ok.inj hsome]
      exact ⟨rfl, ComputeEntry.isWellFormed_of_computeEntry hcompute⟩
  | fragment =>
      rw [hkind] at hentry
      obtain ⟨entry, hfragment, hsome⟩ := bind_eq_ok_iff.mp hentry
      obtain ⟨hform, hunused⟩ := FragmentEntry.isWellFormed_of_fragmentEntry hfragment
      rw [← Except.ok.inj hsome]
      exact ⟨rfl, hform, fun _ => hunused⟩
  | resource =>
      rw [hkind] at hentry
      rw [← Except.ok.inj hentry]

/-- A compute shader with fewer components for its workgroups than for its threads. -/
def flatWorkgroup : Text :=
  "@compute(2 * 5, 20) @workgroup_size(8) fn main() \x7b \x7d".toList

/-- A fragment shader with two targets, beside a sampler that it uses. -/
def resolvedTarget : Text :=
  "@sampler var s: sampler;\n@fragment(view) @resolve( out ) fn main() \x7b s; \x7d".toList

theorem compile_hasWellFormedEntry_flatWorkgroup :
    (∃ shader, (compile flatWorkgroup [] {}).result = .ok shader ∧
      shader.entry = some (.compute ⟨2, ⟨8, 1, 1⟩, ⟨10, 20, 1⟩⟩) ∧
      shader.HasWellFormedEntry {}) ∧
    ∃ shader, (compile resolvedTarget [] {}).result = .ok shader ∧
      shader.entry = some (.fragment
        { targetView := "view".toList, resolveTarget := some "out".toList }) ∧
      shader.HasWellFormedEntry {} := by
  have hcompute : (compile flatWorkgroup [] {}).result.toOption.map (·.entry)
      = some (some (.compute ⟨2, ⟨8, 1, 1⟩, ⟨10, 20, 1⟩⟩)) := by
    decide +kernel
  have hfragment : (compile resolvedTarget [] {}).result.toOption.map (·.entry)
      = some (some (.fragment
          { targetView := "view".toList, resolveTarget := some "out".toList })) := by
    decide +kernel
  obtain ⟨shader, hshader, hentry⟩ := Option.map_eq_some_iff.mp hcompute
  obtain ⟨other, hother, hentry'⟩ := Option.map_eq_some_iff.mp hfragment
  have hshader := eq_ok_of_toOption hshader
  have hother := eq_ok_of_toOption hother
  exact ⟨⟨shader, hshader, hentry, compile_hasWellFormedEntry hshader⟩,
    ⟨other, hother, hentry', compile_hasWellFormedEntry hother⟩⟩

end ShaderMarkup
