import ShaderMarkup.Proofs.Completion
import ShaderMarkup.Proofs.DeclaredPiece

/-!
# Which slots the code shows

The slot of a resource is written where emission finds its variable.  `Shader.Shows` says that some
open piece of the source has the variable where emission looks for it.  The main result,
`slot_written_or_ignored`, has three parts:

* the slot of a resource is written in front of its variable when the variable is shown;
* when it is not shown, the code does not depend on the slot at all;
* the variable is shown when an open piece declares it openly (`DeclaresOpenly`).

The last part is about the source alone.  A piece declares its first variable openly if its brackets
close, no word `var` stands in front of or inside a decorator that emission touches, and these
decorators and the bare ones are detached from what follows.  Nothing that emission does then moves
another variable to the front (`DeclaresOpenly.map_value_findVariable?`).
-/

namespace ShaderMarkup

open Segment (join)

/-! ## Open declarations -/

/-- The names whose decorators emission takes out or writes anew in a shader of some kind. -/
def isTouched (name : Text) : Bool :=
  isMarkup .compute name || isSlotDecorator name || name = "compute".toList
    || name = "fragment".toList

/-- The first variable of a piece has the name, and it stands behind all decorators that emission
touches. -/
structure DeclaresOpenly (piece name : Text) : Prop where
  closed : IsClosed piece
  apart : LooseApart isTouched [] piece
  leads : ∀ call ∈ calls piece, isTouched call.value.name = true →
    ¬ "var".toList <:+: piece.take call.stop
  declares : (findVariable? namedVariable piece).map (·.value) = some name

instance (piece name : Text) : Decidable (DeclaresOpenly piece name) :=
  decidable_of_iff
    (IsClosed piece ∧ LooseApart isTouched [] piece ∧
      (∀ call ∈ calls piece, isTouched call.value.name = true →
        ¬ "var".toList <:+: piece.take call.stop) ∧
      (findVariable? namedVariable piece).map (·.value) = some name)
    ⟨fun h => ⟨h.1, h.2.1, h.2.2.1, h.2.2.2⟩, fun h => ⟨h.closed, h.apart, h.leads, h.declares⟩⟩

theorem isTouched_of_isMarkup {kind : ShaderKind} {name : Text} (h : isMarkup kind name = true) :
    isTouched name = true := by
  have hcompute : isMarkup .compute name = true := by
    rcases Bool.or_eq_true_iff.mp h with hmarkup | hsize
    · exact Bool.or_eq_true_iff.mpr (Or.inl hmarkup)
    · rw [isMarkup, (Bool.and_eq_true_iff.mp hsize).2]
      simp
  simp [isTouched, hcompute]

theorem isTouched_of_isLoose {kind : ShaderKind} {workgroup : Option Extent} {name : Text}
    (h : isLoose kind workgroup name = true) : isTouched name = true := by
  rcases Bool.or_eq_true_iff.mp h with hmarkup | hentry
  · exact isTouched_of_isMarkup hmarkup
  · simp only [isLooseEntry, Bool.or_eq_true, Bool.and_eq_true, decide_eq_true_eq] at hentry
    simp only [isTouched, Bool.or_eq_true, decide_eq_true_eq]
    tauto

section Pieces

variable {kind : ShaderKind} {workgroup : Option Extent} {piece name : Text}

/-- Segments whose decorators are not touched stay as they are. -/
theorem entrySegments_of_not_touched {pieces : List (Segment Decorator)}
    (h : ∀ decorator ∈ pieces.filterMap Segment.value?, isTouched decorator.name = false) :
    entrySegments kind workgroup pieces = pieces := by
  have hmarkup : ∀ decorator ∈ pieces.filterMap Segment.value?,
      isMarkup kind decorator.name = false := by
    intro decorator hmem
    refine Bool.eq_false_iff.mpr fun hmarkup => ?_
    have htouched := h decorator hmem
    rw [isTouched_of_isMarkup hmarkup] at htouched
    cases htouched
  rw [entrySegments, rewriteSegments_withoutChosen_of_none hmarkup]
  refine rewriteSegments_plainSegments_of_none fun decorator hmem => ?_
  have htouched := h decorator hmem
  simp only [isTouched, Bool.or_eq_false_iff, decide_eq_false_iff_not] at htouched
  exact ⟨htouched.1.2, htouched.2⟩

namespace DeclaresOpenly

theorem slotsLead (h : DeclaresOpenly piece name) : SlotsLead kind workgroup piece := by
  constructor
  · intro call hcall hneeds
    exact h.apart call hcall (hneeds.imp_right isTouched_of_isLoose)
  · intro call hcall hslot
    exact h.leads call hcall (by simp [isTouched, hslot])

/-- The first variable stays the first when the markup goes and the entry points take their plain
form. -/
theorem map_value_findVariable? (h : DeclaresOpenly piece name) :
    (findVariable? namedVariable
      (plainEntries workgroup (removeDecorators (isMarkup kind) piece))).map (·.value)
      = some name := by
  have htouched := standApart_decoratorSegments h.closed h.apart
  have hsegments : StandApart (isLoose kind workgroup) [] (decoratorSegments piece) :=
    htouched.mono fun _ => isTouched_of_isLoose
  have hplain := join_entrySegments hsegments
  obtain ⟨front, back, hsplit, hback, hfront⟩ := exists_lead htouched (fun _ => id) h.leads
  rw [join_decoratorSegments, hsplit, entrySegments_append, entrySegments_of_not_touched hback]
    at hplain
  rw [hplain]
  have hdeclares := h.declares
  rw [← join_decoratorSegments piece, hsplit] at hdeclares
  rcases hfront with rfl | ⟨hnone, hdetached⟩
  · exact hdeclares
  · -- The front has no variable, as it is written and in its plain form, and the back is the same.
    rw [List.append_nil] at hdetached
    rw [hsplit] at hsegments
    rw [join_append, map_value_findVariable?_append hnone hdetached.1] at hdeclares
    rw [join_append, map_value_findVariable?_append
      (not_infix_entrySegments hsegments.left hnone).1 hdetached.1]
    exact hdeclares

/-- Emission finds a variable that is declared openly. -/
theorem boundVariable?_eq (h : DeclaresOpenly piece name) {isResource : Text → Bool}
    (hresource : isResource name = true) :
    boundVariable? kind workgroup isResource piece = some name := by
  have hfirst : (findVariable? namedVariable
      (plainEntries workgroup (removeDecorators (isMarkup kind) piece))).map (·.value)
        = some name := h.map_value_findVariable?
  obtain ⟨declared, hdeclared, rfl⟩ := Option.map_eq_some_iff.mp hfirst
  have hkept : (findVariable? namedVariable (removeDecorators isSlotDecorator
      (plainEntries workgroup (removeDecorators (isMarkup kind) piece)))).map (·.value)
        = some declared.value := by
    by_contra hhidden
    exact h.slotsLead.not_hidesVariable h.closed ⟨declared, hdeclared, hhidden⟩
  rw [boundVariable?, h.closed.any_unbalanced, if_neg Bool.false_ne_true]
  simp only [hdeclared, hresource, if_true, hkept]

end DeclaresOpenly

end Pieces

/-! ## Whole shaders -/

/-- An open piece of the source shows the variable of the name, so that emission finds it. -/
def Shader.Shows (shader : Shader) (code name : Text) : Prop :=
  ∃ piece ∈ openPieces code,
    boundVariable? shader.kind (shader.entry.bind EntryPoint.workgroup?)
      (fun declared => shader.resources.any fun resource => resource.name = declared) piece
      = some name

/-- The slot of a variable that emission finds is in the code. -/
theorem isBound_emit {code plain piece name : Text} {resources : List Resource} {kind : ShaderKind}
    {entry : Option EntryPoint} {slot : Slot} (h : emit code resources kind entry = .ok plain)
    (hpiece : piece ∈ openPieces code)
    (hbound : boundVariable? kind (entry.bind EntryPoint.workgroup?)
      (fun declared => (slotNamed? resources declared).isSome) piece = some name)
    (hslot : slotNamed? resources name = some slot) : IsBound plain slot name := by
  obtain ⟨region, hregion, hopen, hpiece⟩ := mem_openPieces.mp hpiece
  obtain ⟨texts, htexts, hplain⟩ := bind_eq_ok_iff.mp h
  obtain ⟨atLineStart, text, htext, hregionPlain⟩ := exists_of_mem_plainRegions htexts hregion
  rw [plainRegion_of_open hopen] at hregionPlain
  have hflat : IsBound texts.flatten slot name :=
    (isBound_plainOpen hregionPlain hpiece hbound hslot).flatten htext
  cases hplain
  exact hflat.reflowed (reflowed_tidyLines _)

/-- A resource whose variable an open piece declares openly is shown. -/
theorem Shader.shows_of_declaresOpenly {shader : Shader} {code piece : Text} {resource : Resource}
    (hmem : resource ∈ shader.resources) (hpiece : piece ∈ openPieces code)
    (h : DeclaresOpenly piece resource.name) : shader.Shows code resource.name := by
  refine ⟨piece, hpiece, h.boundVariable?_eq ?_⟩
  rw [List.any_eq_true]
  exact ⟨resource, hmem, by simp⟩

/-- The slot of a resource is written in front of its variable when an open piece of the source
shows the variable.  When none does, the resource could have any slot and the code would be the
same.  A variable is shown when an open piece of the source declares it openly. -/
theorem slot_written_or_ignored {source : Text} {environment : Environment} {settings : Settings}
    {shader : Shader} (hcompiles : (compile source environment settings).result = .ok shader)
    (hnames : (shader.resources.map (·.name)).Nodup) {resource : Resource}
    (hmem : resource ∈ shader.resources) :
    (shader.Shows (stripComments source) resource.name →
        IsBound shader.code resource.slot resource.name) ∧
      (¬ shader.Shows (stripComments source) resource.name → ∀ slot,
        emit (stripComments source) (relocate resource.name slot shader.resources) shader.kind
          shader.entry = .ok shader.code) ∧
      ∀ piece ∈ openPieces (stripComments source), DeclaresOpenly piece resource.name →
        shader.Shows (stripComments source) resource.name := by
  have hcode := (compile_eq_ok_iff.mp hcompiles).code_eq
  have hresource : (fun declared => shader.resources.any fun other => other.name = declared)
      = fun declared => (slotNamed? shader.resources declared).isSome :=
    funext fun declared => (isSome_slotNamed? _ _).symm
  refine ⟨?_, ?_, fun piece hpiece => Shader.shows_of_declaresOpenly hmem hpiece⟩
  · unfold Shader.Shows
    rw [hresource]
    rintro ⟨piece, hpiece, hbound⟩
    exact isBound_emit hcode hpiece hbound (slotNamed?_eq_some hnames hmem)
  · unfold Shader.Shows
    rw [hresource]
    intro hhidden slot
    rw [← hcode]
    refine (emit_congr fun piece hpiece => ?_).symm
    refine plainPiece_congr (fun declared => (isSome_slotNamed?_relocate _ _ _ _).symm)
      (fun declared hne => (slotNamed?_relocate_of_ne hne).symm) ?_
    exact fun hbound => hhidden ⟨piece, hpiece, hbound⟩

/-- Two samplers.  The variable of the first is shown, amid white space that is tidied; the variable
of the second goes with the argument it stands in. -/
def twoSamplers : Text :=
  "@sampler\n  var  a : sampler;\n@sampler(var s: sampler);".toList

/-- What the two samplers compile to. -/
def twoSamplersShader : Shader where
  kind := .resource
  resources := [
    { name := "a".toList, binding := some 0, detail := .sampler {} },
    { name := "s".toList, binding := some 1, declarationIndex := 1, detail := .sampler {} }]
  code := "@group(0) @binding(0) var a : sampler;\n;".toList

theorem compile_twoSamplers : (compile twoSamplers [] {}).result = .ok twoSamplersShader :=
  eq_ok_of_toOption (by decide +kernel)

/-- The piece of the first sampler. -/
def shownPiece : Text :=
  "@sampler\n  var  a : sampler;".toList

theorem declaresOpenly_shownPiece : DeclaresOpenly shownPiece "a".toList := by
  decide +kernel

theorem slot_written_or_ignored_twoSamplers :
    (compile twoSamplers [] {}).result = .ok twoSamplersShader ∧
      DeclaresOpenly shownPiece "a".toList ∧
      IsBound twoSamplersShader.code ⟨0, 0⟩ "a".toList ∧
      ∀ slot, emit (stripComments twoSamplers)
        (relocate "s".toList slot twoSamplersShader.resources) .resource none
          = .ok twoSamplersShader.code := by
  have hnames : (twoSamplersShader.resources.map (·.name)).Nodup := by decide
  obtain ⟨hwritten, -, hopen⟩ := slot_written_or_ignored compile_twoSamplers hnames (.head _)
  obtain ⟨-, hignored, -⟩ :=
    slot_written_or_ignored compile_twoSamplers hnames (.tail _ (.head _))
  have hpiece : shownPiece ∈ openPieces (stripComments twoSamplers) := by decide +kernel
  have hhidden : ¬ twoSamplersShader.Shows (stripComments twoSamplers) "s".toList := by
    unfold Shader.Shows
    decide +kernel
  exact ⟨compile_twoSamplers, declaresOpenly_shownPiece,
    hwritten (hopen shownPiece hpiece declaresOpenly_shownPiece), hignored hhidden⟩

/-- A resource whose variable stands in the argument of its decorator has a slot that the code does
not show. -/
theorem slot_of_enclosed_variable_missing :
    ∃ shader resource, (compile "@sampler(@magFilter(linear) var s: sampler);".toList [] {}).result
        = .ok shader ∧
      (shader.resources.map (·.name)).Nodup ∧ resource ∈ shader.resources ∧
      ¬ IsBound shader.code resource.slot resource.name := by
  refine ⟨{ kind := .resource
            resources := [{ name := "s".toList, binding := some 0,
                            detail := .sampler { magFilter := some "linear".toList } }]
            code := ";".toList },
    _, eq_ok_of_toOption (by decide +kernel), by decide, .head _, ?_⟩
  rintro ⟨before, declaration, rest, hcode, _⟩
  have hat : '@' ∈ slotText ⟨0, 0⟩ := List.mem_of_head? rfl
  have hmem : '@' ∈ ";".toList := by
    rw [show ";".toList = _ from hcode]
    exact List.mem_append_left _ (List.mem_append_right _ hat)
  exact absurd hmem (by decide)

end ShaderMarkup
