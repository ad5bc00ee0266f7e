import ShaderMarkup.Proofs.Construction
import ShaderMarkup.Proofs.Emission
import ShaderMarkup.Proofs.Evaluation
import ShaderMarkup.Proofs.Table

/-!
# What a compilation can stumble over

An issue of a declaration drops the declaration and nothing else; an issue of the kind or of the
entry point ends the compilation with a report.  An abort is neither: it ends the compilation
without a report.  `Context.Trap` lists what a source and its settings must contain for that to
happen, and `compile_contained` says that nothing else ends a compilation.

The proof follows the calls from the whole source down to the numerals.  Each function gets one
lemma `…_abortsOnly`, which says that it aborts for a trap only.  Several causes never come up in a
compilation: evaluation yields at least one number and only finite ones, so a texture always has a
size value to repeat and no size is too large for a double, and only scalars and vectors are asked
for their size, so no struct is entered.
-/

namespace ShaderMarkup

/-! ## Traps -/

/-- A piece of an open region whose first variable goes when the slot decorators are taken out. -/
def HidesVariable (kind : ShaderKind) (workgroup : Option Extent) (piece : Text) : Prop :=
  let plain := plainEntries workgroup (removeDecorators (isMarkup kind) piece)
  ∃ declared, findVariable? namedVariable plain = some declared ∧
    (findVariable? namedVariable (removeDecorators isSlotDecorator plain)).map (·.value)
      ≠ some declared.value

/-- What a compilation can stumble over, for each abort that it can end with. -/
inductive Context.Trap (context : Context) : Abort → Prop
  /-- The marker, or a numeral with more digits than are read. -/
  | evaluation {cause : Abort}
      (h : EvaluationTrap context.settings.marker context.code cause) : context.Trap cause
  /-- A slot that is written with digits which are not all decimal. -/
  | slotDigits {declaration : Declaration} {name : Text} {call : Call}
      (hdeclaration : declaration ∈ declarations context.code)
      (hslot : isSlotDecorator name = true)
      (hcall : findDecorator? declaration.text name = some call)
      (hdigits : ∀ c ∈ call.value.trimmedArgument, isDigit c = true)
      (hother : ∃ c ∈ call.value.trimmedArgument, isDecimal c = false) :
      context.Trap (.slotDigits call.value.trimmedArgument)
  /-- A numeral that is too large for a double. -/
  | numeral {digits : Text} (h : IsNumeralIn context.code digits)
      (hlarge : (Number.int (Text.natValue digits)).isOversized = true) :
      context.Trap .integerRange
  /-- A viewport that is too large for a double. -/
  | viewport {width height : Number} (h : context.settings.viewport = some (width, height))
      (hlarge : width.isOversized = true ∨ height.isOversized = true) :
      context.Trap .integerRange
  /-- A variable that stands in a slot decorator and is the only one of its piece. -/
  | variableLost {kind : ShaderKind} {workgroup : Option Extent} {piece : Text}
      (hpiece : piece ∈ openPieces context.code) (h : HidesVariable kind workgroup piece) :
      context.Trap .variableLost
  /-- A variable that stands in a slot decorator in front of one that belongs to no resource. -/
  | slotUnknown {kind : ShaderKind} {workgroup : Option Extent} {piece name : Text}
      (hpiece : piece ∈ openPieces context.code) (h : HidesVariable kind workgroup piece) :
      context.Trap (.slotUnknown name)

section Numbers

variable {p : Abort → Prop}

theorem positiveInteger_abortsOnly {what : Text} {value : Number}
    (h : value.isOversized = true → p .integerRange) :
    AbortsOnly p (positiveInteger what value) := by
  unfold positiveInteger
  split
  · exact .refuse _
  · split
    next hlarge => exact .giveUp (h hlarge)
    next =>
      split
      · exact .ok _
      · exact .refuse _

/-- A sound number is an integer or is refused. -/
theorem positiveInteger_abortsOnly_of_sound {what : Text} {value : Number} (h : value.IsSound) :
    AbortsOnly p (positiveInteger what value) :=
  positiveInteger_abortsOnly fun hlarge => by
    rw [h.1] at hlarge
    cases hlarge

theorem mem_of_fitSize {values fitted : List Number} {type : Text}
    (h : fitSize values type = .ok fitted) : ∀ value ∈ fitted, value ∈ values := by
  unfold fitSize at h
  dsimp only at h
  split at h
  next => cases h
  next =>
    split at h
    next =>
      split at h
      next => cases h
      next =>
        unfold repeatLast at h
        split at h
        next => cases h
        next last hlast =>
          cases h
          intro value hvalue
          rcases List.mem_append.mp hvalue with hvalue | hvalue
          · exact hvalue
          · rw [(List.mem_replicate.mp hvalue).2]
            exact List.mem_of_getLast? hlast
    next =>
      cases h
      exact fun _ hvalue => hvalue

theorem textureSize_abortsOnly {values : List Number} {type : Text} (hne : values ≠ [])
    (hsound : ∀ value ∈ values, value.IsSound) : AbortsOnly p (textureSize values type) := by
  refine .bind ?_ fun fitted hfitted => ?_
  · unfold fitSize
    dsimp only
    split
    · exact .refuse _
    · split
      · split
        · exact .refuse _
        · unfold repeatLast
          split
          next hnone => exact absurd (List.getLast?_eq_none_iff.mp hnone) hne
          next => exact .ok _
      · exact .ok _
  · have hfits : ∀ value ∈ fitted, value.IsSound :=
      fun value hvalue => hsound value (mem_of_fitSize hfitted value hvalue)
    suffices h : ∀ position, AbortsOnly p (extentsFrom position fitted) from h 1
    clear hfitted
    induction fitted with
    | nil => exact fun _ => .ok _
    | cons value rest ih =>
        rw [List.forall_mem_cons] at hfits
        exact fun position => .bind (positiveInteger_abortsOnly_of_sound hfits.1)
          fun _ _ => .bind (ih hfits.2 _) fun _ _ => .ok _

/-- The size of a field whose values were checked against its type is known. -/
theorem typeSize_abortsOnly {field type : Text} {evaluated values : List Number}
    {structs : StructTable} (h : fieldValues field type evaluated = .ok values) :
    AbortsOnly p (typeSize structs type) := by
  obtain ⟨scalar, -, hcount, hscalar, -⟩ := fieldValues_eq_ok h
  rw [typeSize_of_componentCount? hcount hscalar]
  exact .ok _

end Numbers

/-! ## Parts of a declaration -/

section Parts

variable {context : Context}

/-- Evaluating an expression of the source aborts for a trap only. -/
theorem Context.evaluate_abortsOnly {expression : Text} (h : expression <:+: context.code) :
    AbortsOnly context.Trap (context.evaluate expression) :=
  ShaderMarkup.evaluate_abortsOnly.imp fun _ htrap => .evaluation (htrap.trans h)

theorem slotNumber_abortsOnly {declaration : Declaration} {name : Text} {call : Call}
    (hdeclaration : declaration ∈ declarations context.code)
    (hslot : isSlotDecorator name = true)
    (hcall : findDecorator? declaration.text name = some call) :
    AbortsOnly context.Trap (slotNumber call.value) := by
  have hwithin : call.value.trimmedArgument <:+: context.code :=
    (trimmedArgument_isInfix fun argument hargument => findDecorator?_isInfix hcall hargument).trans
      (declarations_isInfix hdeclaration)
  unfold slotNumber
  dsimp only
  split
  · exact .refuse _
  next hdigits =>
    simp only [Bool.or_eq_true, Bool.not_eq_true', not_or, Bool.not_eq_false] at hdigits
    split
    next hlong =>
      refine .giveUp (.evaluation (.integer ⟨?_, fun c hc => List.mem_takeWhile_imp hc⟩ hlong))
      exact (List.takeWhile_prefix _).isInfix.trans hwithin
    next =>
      split
      next hshort =>
        refine .giveUp (.slotDigits hdeclaration hslot hcall (by simpa using hdigits.2) ?_)
        -- Were all characters decimal, the leading ones would be all of them.
        by_contra hnone
        have hall : ∀ c ∈ call.value.trimmedArgument, isDecimal c = true := by
          intro c hc
          by_contra hc'
          exact hnone ⟨c, hc, by simpa using hc'⟩
        rw [List.takeWhile_eq_self_iff.mpr hall] at hshort
        exact Nat.lt_irrefl _ hshort
      next => exact .ok _

theorem slotOf_abortsOnly {declaration : Declaration}
    (hdeclaration : declaration ∈ declarations context.code) :
    AbortsOnly context.Trap (slotOf declaration.text) := by
  have hpart (name : String) (hslot : isSlotDecorator name.toList = true) :
      AbortsOnly context.Trap (slotPart declaration.text name) := by
    unfold slotPart
    split
    · exact .ok _
    next call hcall =>
      exact .bind (slotNumber_abortsOnly hdeclaration hslot hcall) fun _ _ => .ok _
  exact .bind (hpart "group" (by decide)) fun _ _ =>
    .bind (hpart "binding" (by decide)) fun _ _ => .ok _

theorem singlePositive_abortsOnly {what : String} {expression : Text}
    (h : expression <:+: context.code) :
    AbortsOnly context.Trap (singlePositive context what expression) := by
  refine .bind (context.evaluate_abortsOnly h) fun values hvalues => ?_
  split
  next value =>
    exact positiveInteger_abortsOnly_of_sound ((evaluate_eq_ok hvalues).2 value (by simp))
  next => exact .refuse _

end Parts

/-! ## Declarations -/

section Declarations

variable {context : Context} {declaration : Declaration}

theorem Texture.build_abortsOnly (h : declaration ∈ declarations context.code) :
    AbortsOnly context.Trap (Texture.build context declaration) := by
  have hcode := declarations_isInfix h
  unfold Texture.build
  dsimp only
  split
  · exact .refuse _
  · exact .refuse _
  · exact .refuse _
  next found sizeExpression formatArgument _ hsize _ =>
    split
    · exact .refuse _
    · refine .bind (context.evaluate_abortsOnly ((filledArgument?_isInfix hsize).trans hcode))
        fun values hvalues => ?_
      obtain ⟨hne, hsound⟩ := evaluate_eq_ok hvalues
      refine .bind (textureSize_abortsOnly hne hsound) fun size _ => ?_
      split
      · exact .refuse _
      · exact .bind (slotOf_abortsOnly h) fun _ _ => .ok _

/-- The digits of a stride stand in the type. -/
theorem structuredStride_isNumeralIn {text rest digits : Text}
    (h : structuredStride text = some (digits, rest)) : IsNumeralIn text digits := by
  unfold structuredStride at h
  simp only [Reader.bind_eq_some_iff, Reader.word_eq_some_iff, Reader.blanks_eq_some_iff,
    Reader.symbol_eq_some_iff, Reader.run1_eq_some_iff, Reader.pure_apply, Option.some.injEq,
    Prod.mk.injEq] at h
  obtain ⟨_, _, rfl, _, _, ⟨_, rfl, _⟩, _, _, rfl, _, _, ⟨_, rfl, _⟩, found, behind,
    ⟨⟨rfl, hfound, _⟩, _⟩, _, _, _, _, _, _, rfl, _⟩ := h
  refine ⟨?_, hfound⟩
  refine List.infix_append_of_infix_right (List.infix_append_of_infix_right (List.infix_cons ?_))
  exact List.infix_append_of_infix_right List.infix_append_left

theorem bufferStride_abortsOnly {decorated : Option Text} {type : Text}
    (hdecorated : ∀ expression ∈ decorated, expression <:+: context.code)
    (htype : ∀ digits, IsNumeralIn type digits → IsNumeralIn context.code digits) :
    AbortsOnly context.Trap (bufferStride context decorated type) := by
  unfold bufferStride
  split
  next c rest =>
    exact .bind (singlePositive_abortsOnly (hdecorated (c :: rest) rfl)) fun _ _ => .ok _
  next =>
    split
    · exact .ok _
    next found hfound =>
      have hdigits : IsNumeralIn type found.value := by
        obtain ⟨left, right, rest, rfl, _, hread⟩ := exists_of_searchFrom hfound
        exact (structuredStride_isNumeralIn hread).trans (List.suffix_append left right).isInfix
      dsimp only
      split
      next hlong => exact .giveUp (.evaluation (.integer (htype _ hdigits) hlong))
      next =>
        refine .bind (positiveInteger_abortsOnly fun hlarge => ?_) fun _ _ => .ok _
        exact .numeral (htype _ hdigits) hlarge

theorem backingType_abortsOnly {p : Abort → Prop} (type : Text) :
    AbortsOnly p (backingType type) := by
  unfold backingType
  split
  · exact .ok _
  · split
    · split
      · exact .refuse _
      · exact .ok _
    · exact .refuse _

theorem eq_of_backingType {type found : Text} (h : backingType type = .ok found) :
    found = type := by
  unfold backingType at h
  split at h
  · cases h
    rfl
  · split at h
    · split at h
      · cases h
      · cases h
        rfl
    · cases h

theorem checkStride_abortsOnly {p : Abort → Prop} (type : Text) (size : Int)
    (stride : Option Int) : AbortsOnly p (checkStride type size stride) := by
  unfold checkStride
  split
  · exact .ok _
  · split
    · exact .refuse _
    · split
      · exact .ok _
      · exact .refuse _

theorem Buffer.build_abortsOnly (h : declaration ∈ declarations context.code) :
    AbortsOnly context.Trap (Buffer.build context declaration) := by
  have hcode := declarations_isInfix h
  unfold Buffer.build
  dsimp only
  split
  · exact .refuse _
  · exact .refuse _
  next found sizeExpression hfound hsize =>
    refine .bind (backingType_abortsOnly _) fun elementType helement =>
      .bind (singlePositive_abortsOnly ((filledArgument?_isInfix hsize).trans hcode)) fun _ _ =>
      .bind (bufferStride_abortsOnly ?_ ?_) fun _ _ => .bind (checkStride_abortsOnly _ _ _)
        fun _ _ => .bind (slotOf_abortsOnly h) fun _ _ => .ok _
    · intro expression hexpression
      obtain ⟨call, hcall, hargument⟩ := Option.bind_eq_some_iff.mp hexpression
      exact (findDecorator?_isInfix hcall hargument).trans hcode
    · -- Digits hold no white space, so they stand in the type as it was written.
      intro digits hdigits
      rw [eq_of_backingType helement] at hdigits
      have hwritten : digits <:+: found.value.type := infix_of_infix_collapse hdigits.1
        fun c hc => isBlank_eq_false_of_isDecimal (hdigits.2 c hc)
      obtain ⟨left, right, rest, hsplit, _, hread⟩ := exists_of_findVariable? hfound
      have hright : right <:+: declaration.text := hsplit ▸ (List.suffix_append left right).isInfix
      exact ⟨((hwritten.trans (storageVariable_type_isInfix hread)).trans hright).trans hcode,
        hdigits.2⟩

theorem fieldValues_abortsOnly {p : Abort → Prop} {field type : Text} {values : List Number}
    (hsound : ∀ value ∈ values, value.IsSound) : AbortsOnly p (fieldValues field type values) := by
  unfold fieldValues
  dsimp only
  split
  · split
    · exact .refuse _
    · split
      · exact .refuse _
      · split
        · exact .ok _
        · refine .mapM fun value hvalue => ?_
          unfold integerField
          split
          next hlarge =>
            rw [(hsound value hvalue).1] at hlarge
            cases hlarge
          next =>
            split
            · split
              · exact .refuse _
              · exact .ok _
            · exact .refuse _
  · exact .refuse _

theorem fieldEntries_abortsOnly {defaults : Table Text Text}
    (hdefaults : ∀ field expression, defaults.find? field = some expression →
      expression <:+: context.code) (members : List (Text × Text)) :
    AbortsOnly context.Trap (fieldEntries context defaults members) := by
  induction members with
  | nil => exact .ok _
  | cons member rest ih =>
      obtain ⟨field, type⟩ := member
      refine .bind ?_ fun entry _ => .bind ih fun _ _ => .ok _
      unfold fieldEntry
      split
      · exact .refuse _
      next expression hexpression =>
        exact .bind (context.evaluate_abortsOnly (hdefaults field expression hexpression))
          fun _ hevaluated => .bind (fieldValues_abortsOnly (evaluate_eq_ok hevaluated).2)
            fun _ hvalues => .bind (typeSize_abortsOnly hvalues) fun _ _ => .ok _

theorem fieldDefault_eq_ok {decorator : Decorator} {entry : Text × Text}
    (h : fieldDefault decorator = .ok entry) : decorator.argument = some entry.2 := by
  unfold fieldDefault at h
  split at h
  next argument hargument =>
    split at h
    · cases h
    · cases h
      exact hargument
  next => cases h

/-- The default values of a declaration stand in it. -/
theorem fieldDefaults_isInfix {text field expression : Text} {defaults : Table Text Text}
    (h : fieldDefaults text = .ok defaults) (hfind : defaults.find? field = some expression) :
    expression <:+: text := by
  obtain ⟨entries, hentries, h⟩ := bind_eq_ok_iff.mp h
  cases h
  have hmem := Table.mem_entries_ofList (Table.mem_of_find?_eq_some hfind)
  obtain ⟨decorator, hdecorator, hdefault⟩ := exists_of_mem_values_of_mapM_eq_ok hentries hmem
  exact parameterDecorators_isInfix hdecorator (fieldDefault_eq_ok hdefault)

theorem Uniform.layout_abortsOnly {structType : Text} (h : declaration.text <:+: context.code) :
    AbortsOnly context.Trap (Uniform.layout context declaration.text structType) := by
  refine .bind ?_ fun members _ => .bind ?_ fun defaults hdefaults =>
    .bind (fieldEntries_abortsOnly (fun field expression hfind =>
      (fieldDefaults_isInfix hdefaults hfind).trans h) _) fun _ _ => .ok _
  · unfold Uniform.structFieldsOf
    split
    · exact .refuse _
    · dsimp only
      split
      · exact .refuse _
      · exact .ok _
  · refine .bind (.mapM fun decorator _ => ?_) fun _ _ => .ok _
    unfold fieldDefault
    split
    · split
      · exact .refuse _
      · exact .ok _
    · exact .refuse _

theorem Uniform.build_abortsOnly (h : declaration ∈ declarations context.code) :
    AbortsOnly context.Trap (Uniform.build context declaration).result := by
  unfold Uniform.build
  split
  · exact .refuse _
  · dsimp only
    rw [Journal.result_bind]
    refine .bind (Uniform.layout_abortsOnly (declarations_isInfix h)) fun parts _ => ?_
    obtain ⟨uniform, members, defaults⟩ := parts
    dsimp only
    rw [Journal.result_bind]
    refine .bind (.ok _) fun _ _ => ?_
    rw [Journal.result_bind]
    exact .bind (slotOf_abortsOnly h) fun _ _ => .ok _

/-- The arguments of sampler parameters are those of the decorators. -/
theorem samplerArguments_eq_ok {given found : SamplerArguments} {decorators : List Decorator}
    (h : samplerArguments given decorators = .ok found) :
    ∀ entry ∈ found, entry ∈ given ∨
      ∃ decorator ∈ decorators, decorator.argument = some entry.2 := by
  induction decorators generalizing given with
  | nil =>
      cases h
      exact fun _ hentry => Or.inl hentry
  | cons decorator rest ih =>
      rw [samplerArguments] at h
      split at h
      · cases h
      · split at h
        · cases h
        · split at h
          next argument hargument =>
            split at h
            · cases h
            · intro entry hentry
              rcases ih h entry hentry with hgiven | ⟨other, hother, hvalue⟩
              · rcases List.mem_append.mp hgiven with hgiven | hgiven
                · exact Or.inl hgiven
                · rw [List.mem_singleton] at hgiven
                  exact Or.inr ⟨decorator, by simp, by rw [hgiven, hargument]⟩
              · exact Or.inr ⟨other, List.mem_cons_of_mem _ hother, hvalue⟩
          next => cases h

theorem samplerArguments_abortsOnly {p : Abort → Prop} (given : SamplerArguments)
    (decorators : List Decorator) : AbortsOnly p (samplerArguments given decorators) := by
  induction decorators generalizing given with
  | nil => exact .ok _
  | cons decorator rest ih =>
      rw [samplerArguments]
      split
      · exact .refuse _
      · split
        · exact .refuse _
        · split
          · split
            · exact .refuse _
            · exact ih _
          · exact .refuse _

theorem Sampler.setAll_abortsOnly {given : SamplerArguments}
    (hgiven : ∀ entry ∈ given, entry.2 <:+: context.code) (sampler : Sampler) :
    AbortsOnly context.Trap (Sampler.setAll context sampler given) := by
  induction given generalizing sampler with
  | nil => exact .ok _
  | cons entry rest ih =>
      rw [List.forall_mem_cons] at hgiven
      obtain ⟨parameter, argument⟩ := entry
      cases parameter with
      | choice parameter =>
          refine .bind ?_ fun _ _ => ih hgiven.2 _
          unfold ChoiceParameter.check
          split
          · exact .ok _
          · exact .refuse _
      | range parameter =>
          refine .bind (context.evaluate_abortsOnly hgiven.1) fun _ _ => .bind ?_
            fun _ _ => ih hgiven.2 _
          unfold RangeParameter.check
          split
          · split
            · exact .ok _
            · exact .refuse _
          · exact .refuse _

theorem Sampler.build_abortsOnly (h : declaration ∈ declarations context.code) :
    AbortsOnly context.Trap (Sampler.build context declaration) := by
  have hcode := declarations_isInfix h
  unfold Sampler.build
  dsimp only
  split
  · exact .refuse _
  · refine .bind (samplerArguments_abortsOnly _ _) fun given hgiven =>
      .bind (Sampler.setAll_abortsOnly ?_ _) fun sampler _ => .bind ?_ fun _ _ =>
        .bind (slotOf_abortsOnly h) fun _ _ => .ok _
    · intro entry hentry
      rcases samplerArguments_eq_ok hgiven entry hentry with hnone | ⟨decorator, hmem, hargument⟩
      · cases hnone
      · exact (parameterDecorators_isInfix hmem hargument).trans hcode
    · unfold Sampler.checkLevels
      split
      · split
        · exact .refuse _
        · exact .ok _
      · exact .ok _

theorem Reference.build_abortsOnly (h : declaration ∈ declarations context.code) :
    AbortsOnly context.Trap (Reference.build context declaration) := by
  have hvariable : AbortsOnly context.Trap (referenceVariable declaration.text) := by
    unfold referenceVariable
    dsimp only
    split
    · exact .ok _
    · exact .refuse _
  unfold Reference.build
  dsimp only
  split
  · exact .refuse _
  · split
    · exact .refuse _
    · refine .bind hvariable fun _ _ => .bind (slotOf_abortsOnly h) fun _ _ =>
        .bind ?_ fun _ _ => .ok _
      unfold referenceCategory
      split
      · exact .ok _
      · split
        · exact .ok _
        · split
          · exact .ok _
          · split
            · exact .ok _
            · exact .refuse _

/-- A declaration of the source breaks the reading for a trap only. -/
theorem Declaration.build_abortsOnly (h : declaration ∈ declarations context.code) :
    AbortsOnly context.Trap (declaration.build context).result := by
  unfold Declaration.build
  split
  · exact Texture.build_abortsOnly h
  · exact Buffer.build_abortsOnly h
  · exact Uniform.build_abortsOnly h
  · exact Sampler.build_abortsOnly h
  · exact Reference.build_abortsOnly h

end Declarations

/-! ## Entry points -/

section Entry

variable {context : Context}

theorem argument_isInfix {text : Text} {decorator : Decorator}
    (h : ∀ argument ∈ decorator.argument, argument <:+: text) :
    decorator.argument.getD [] <:+: text := by
  cases hargument : decorator.argument with
  | none => exact List.nil_infix
  | some argument => exact h argument hargument

theorem threadCounts_abortsOnly {compute : Decorator}
    (h : ∀ argument ∈ compute.argument, argument <:+: context.code) :
    AbortsOnly context.Trap (threadCounts context compute) := by
  unfold threadCounts
  split
  · exact .refuse _
  · refine .bind (context.evaluate_abortsOnly (argument_isInfix h)) fun counts hcounts => ?_
    split
    · exact .refuse _
    · exact .mapM fun count hcount =>
        positiveInteger_abortsOnly_of_sound ((evaluate_eq_ok hcounts).2 count hcount)

theorem workgroupSize_abortsOnly {dimensions : Nat} {workgroup : Decorator}
    (h : ∀ argument ∈ workgroup.argument, argument <:+: context.code) :
    AbortsOnly context.Trap (workgroupSize context dimensions workgroup) := by
  refine .bind (context.evaluate_abortsOnly (argument_isInfix h)) fun sizes hsizes => ?_
  split
  · exact .refuse _
  · exact .bind (.mapM fun size hsize =>
      positiveInteger_abortsOnly_of_sound ((evaluate_eq_ok hsizes).2 size hsize)) fun _ _ => .ok _

theorem computeEntry_abortsOnly {compute : Call}
    (h : entryCall? context.code "compute" = some compute) :
    AbortsOnly context.Trap (computeEntry context) := by
  unfold computeEntry
  rw [h]
  refine .bind (.located (threadCounts_abortsOnly fun argument => entryCall?_isInfix h) _ _)
    fun counts _ => ?_
  dsimp only
  split
  · exact .ok _
  next workgroup hworkgroup =>
    exact .bind (.located (workgroupSize_abortsOnly fun argument =>
      entryCall?_isInfix hworkgroup) _ _) fun _ _ => .ok _

theorem canvasSize_abortsOnly {p : Abort → Prop} {most : Int} {values : List Number}
    (h : ∀ value ∈ values, value.isOversized = true → p .integerRange) :
    AbortsOnly p (canvasSize most values) := by
  have hside {label lower : String} {value : Number}
      (hvalue : value.isOversized = true → p .integerRange) :
      AbortsOnly p (canvasSide most label lower value) := by
    refine .bind (positiveInteger_abortsOnly hvalue) fun length _ => ?_
    split
    · exact .refuse _
    · exact .ok _
  unfold canvasSize
  split
  next first second =>
    exact .bind (hside (h first (by simp))) fun _ _ => .bind (hside (h second (by simp)))
      fun _ _ => .ok _
  next => exact .refuse _

theorem canvasOf_abortsOnly {canvas : Decorator}
    (h : ∀ argument ∈ canvas.argument, argument <:+: context.code) :
    AbortsOnly context.Trap (canvasOf context canvas) := by
  unfold canvasOf
  dsimp only
  split
  next argument hargument =>
    have hinner : AbortsOnly context.Trap (do
        let values ← context.evaluate argument
        canvasSize context.settings.maxCanvasSize values) := by
      refine .bind (context.evaluate_abortsOnly (h argument hargument)) fun values hvalues =>
        canvasSize_abortsOnly fun value hvalue hlarge => ?_
      rw [((evaluate_eq_ok hvalues).2 value hvalue).1] at hlarge
      cases hlarge
    intro cause hcause
    unfold blamingCanvas at hcause
    split at hcause
    · cases hcause
    · exact hinner cause hcause
  next =>
    split
    · exact .refuse _
    next width height hviewport =>
      refine canvasSize_abortsOnly fun value hvalue hlarge => .viewport hviewport ?_
      simp only [List.mem_cons, List.not_mem_nil, or_false] at hvalue
      rcases hvalue with rfl | rfl
      · exact Or.inl hlarge
      · exact Or.inr hlarge

theorem leadingCanvas?_isInfix {text argument : Text} {canvas : Decorator}
    (h : leadingCanvas? text = some canvas) (hargument : argument ∈ canvas.argument) :
    argument <:+: text := by
  unfold leadingCanvas? at h
  split at h
  next first rest hcalls =>
    split at h
    · cases h
      exact calls_isInfix (by simp [hcalls]) hargument
    · cases h
  next => cases h

theorem fragmentEntry_abortsOnly {resources : List Resource} {fragment : Call}
    (h : entryCall? context.code "fragment" = some fragment) :
    AbortsOnly context.Trap (fragmentEntry context resources) := by
  have hargument : fragment.value.trimmedArgument <:+: context.code :=
    trimmedArgument_isInfix fun argument => entryCall?_isInfix h
  unfold fragmentEntry
  rw [h]
  refine .located (.bind ?_ fun target _ => .bind ?_ fun entry _ => .bind ?_ fun _ _ => .ok _) _ _
  · unfold fragmentTarget
    dsimp only
    split
    next canvas hcanvas =>
      exact .bind (canvasOf_abortsOnly fun argument hmem =>
        (leadingCanvas?_isInfix hcanvas hmem).trans hargument) fun _ _ => .ok _
    next =>
      split
      · exact .ok _
      · exact .refuse _
  · unfold addResolve
    split
    · exact .ok _
    · dsimp only
      split
      · exact .refuse _
      · split
        · exact .refuse _
        · exact .ok _
  · unfold checkTarget
    split
    · exact .refuse _
    · exact .ok _

/-- The entry point of a shader of the kind that was found aborts for a trap only. -/
theorem entryPoint_abortsOnly {resources : List Resource} {kind : ShaderKind}
    (h : shaderKind context.code = .ok kind) :
    AbortsOnly context.Trap (entryPoint context resources kind) := by
  unfold shaderKind at h
  split at h
  next => cases h
  next compute _ hcompute _ =>
    cases h
    exact .bind (computeEntry_abortsOnly hcompute) fun _ _ => .ok _
  next fragment hnone hfragment =>
    cases h
    exact .bind (fragmentEntry_abortsOnly hfragment) fun _ _ => .ok _
  next =>
    cases h
    exact .ok _

end Entry

/-! ## Emission -/

section Emission

variable {kind : ShaderKind} {workgroup : Option Extent} {slotOf : Text → Option Slot}

/-- A piece cannot be emitted only when its first variable hides in a slot decorator. -/
theorem hidesVariable_of_plainPiece_eq_error {piece : Text} {fault : Fault}
    (h : plainPiece kind workgroup slotOf piece = .error fault) :
    HidesVariable kind workgroup piece ∧
      (fault = .abort .variableLost ∨ ∃ name, fault = .abort (.slotUnknown name)) := by
  unfold plainPiece at h
  split at h
  next => cases h
  next =>
    unfold bindVariable at h
    split at h
    next => cases h
    next declared hdeclared =>
      split at h
      next => cases h
      next hslot =>
        dsimp only at h
        split at h
        next hnone =>
          cases h
          refine ⟨⟨declared, hdeclared, ?_⟩, Or.inl rfl⟩
          rw [hnone]
          simp
        next found hfound =>
          split at h
          next hunknown =>
            cases h
            refine ⟨⟨declared, hdeclared, ?_⟩, Or.inr ⟨_, rfl⟩⟩
            -- The declared variable has a slot, the one that was found has none.
            intro heq
            have hvalue : found.value = declared.value := by simpa [hfound] using heq
            rw [← hvalue, hunknown] at hslot
            exact hslot rfl
          next => cases h

theorem exists_of_plainRegions_eq_error {stretches : List Region} {before : Option Text}
    {fault : Fault} (h : plainRegions kind workgroup slotOf before stretches = .error fault) :
    ∃ region ∈ stretches, region.isSealed = false ∧ ∃ piece ∈ semicolonPieces region.text,
      plainPiece kind workgroup slotOf piece = .error fault := by
  induction stretches generalizing before with
  | nil => cases h
  | cons region rest ih =>
      rw [plainRegions_cons] at h
      rcases bind_eq_error_iff.mp h with h | ⟨text, _, h⟩
      · cases hsealed : region.isSealed with
        | true =>
            rw [plainRegion, if_pos hsealed] at h
            cases h
        | false =>
            rw [plainRegion_of_open hsealed] at h
            rcases bind_eq_error_iff.mp h with h | ⟨_, _, h⟩
            · obtain ⟨piece, hpiece, hfault⟩ := exists_of_mapM_eq_error h
              exact ⟨region, by simp, hsealed, piece, hpiece, hfault⟩
            · cases h
      · rcases bind_eq_error_iff.mp h with h | ⟨_, _, h⟩
        · obtain ⟨stretch, hstretch, hrest⟩ := ih h
          exact ⟨stretch, List.mem_cons_of_mem _ hstretch, hrest⟩
        · cases h

/-- Code that cannot be emitted ends in an abort, for a variable that hides in a slot decorator. -/
theorem emit_eq_error (context : Context) {resources : List Resource} {entry : Option EntryPoint}
    {fault : Fault} (h : emit context.code resources kind entry = .error fault) :
    ∃ cause, fault = .abort cause ∧ context.Trap cause := by
  unfold emit at h
  rcases bind_eq_error_iff.mp h with h | ⟨_, _, h⟩
  · obtain ⟨region, hregion, hopen, piece, hpiece, hfault⟩ := exists_of_plainRegions_eq_error h
    have hmem : piece ∈ openPieces context.code :=
      mem_openPieces.mpr ⟨region, hregion, hopen, hpiece⟩
    obtain ⟨hhides, rfl | ⟨name, rfl⟩⟩ := hidesVariable_of_plainPiece_eq_error hfault
    · exact ⟨_, rfl, .variableLost hmem hhides⟩
    · exact ⟨_, rfl, .slotUnknown hmem hhides⟩
  · cases h

end Emission

/-! ## Whole sources -/

theorem shaderKind_ne_abort (code : Text) (cause : Abort) :
    shaderKind code ≠ .error (.abort cause) := by
  unfold shaderKind
  split <;> simp

/-- A compilation that is refused is refused for its kind or for its entry point. -/
theorem refused_of_compile_eq_issue {source : Text} {environment : Environment}
    {settings : Settings} {report : Located Issue}
    (h : (compile source environment settings).result = .error (.issue report)) :
    let context := Context.ofCode (stripComments source) environment settings
    shaderKind context.code = .error (.issue report) ∨
      ∃ kind, shaderKind context.code = .ok kind ∧
        entryPoint context (allocate (acceptedResources context)).1 kind
          = .error (.issue report) := by
  intro context
  rcases compile_eq_error_iff.mp h with h | ⟨kind, hkind, ⟨_, h, _⟩ | ⟨declared, hdeclared, h⟩⟩
  · exact Or.inl h
  · cases h
  · obtain ⟨_, rfl⟩ := sourceResources_eq_ok_iff.mp hdeclared
    rcases h with h | ⟨entry, _, h⟩
    · exact Or.inr ⟨kind, hkind, h⟩
    · obtain ⟨_, h, _⟩ := emit_eq_error context h
      cases h

theorem compile_abortsOnly (source : Text) (environment : Environment) (settings : Settings) :
    AbortsOnly (Context.ofCode (stripComments source) environment settings).Trap
      (compile source environment settings).result := by
  intro cause h
  rcases compile_eq_error_iff.mp h with
    h | ⟨kind, hkind, ⟨_, hcause, h⟩ | ⟨_, _, h | ⟨_, _, h⟩⟩⟩
  · exact absurd h (shaderKind_ne_abort _ _)
  · cases hcause
    obtain ⟨declaration, hdeclaration, _, hbuild⟩ := exists_breaksWith_of_sourceResources h
    exact Declaration.build_abortsOnly hdeclaration _ hbuild
  · exact entryPoint_abortsOnly hkind _ h
  · obtain ⟨_, hcause, htrap⟩ :=
      emit_eq_error (.ofCode (stripComments source) environment settings) h
    cases hcause
    exact htrap

/-- A compilation ends in an abort exactly when one of its stages does. -/
theorem compile_aborts_iff {source : Text} {environment : Environment} {settings : Settings} :
    let context := Context.ofCode (stripComments source) environment settings
    let resources := (allocate (acceptedResources context)).1
    (∃ cause, (compile source environment settings).result = .error (.abort cause)) ↔
      ∃ kind, shaderKind context.code = .ok kind ∧
        ((∃ declaration ∈ declarations context.code, ∃ cause,
          declaration.BreaksWith context cause) ∨
        (∃ cause, entryPoint context resources kind = .error (.abort cause)) ∨
        ∃ entry cause, entryPoint context resources kind = .ok entry ∧
          emit context.code resources kind entry = .error (.abort cause)) := by
  intro context resources
  constructor
  · rintro ⟨cause, h⟩
    rcases compile_eq_error_iff.mp h with
      h | ⟨kind, hkind, ⟨culprit, _, h⟩ | ⟨_, hdeclared, h⟩⟩
    · exact absurd h (shaderKind_ne_abort _ _)
    · obtain ⟨declaration, hdeclaration, hbreaks⟩ := exists_breaksWith_of_sourceResources h
      exact ⟨kind, hkind, Or.inl ⟨declaration, hdeclaration, culprit, hbreaks⟩⟩
    · obtain ⟨_, rfl⟩ := sourceResources_eq_ok_iff.mp hdeclared
      rcases h with h | ⟨entry, hentry, h⟩
      · exact ⟨kind, hkind, Or.inr (Or.inl ⟨cause, h⟩)⟩
      · exact ⟨kind, hkind, Or.inr (Or.inr ⟨entry, cause, hentry, h⟩)⟩
  · rintro ⟨kind, hkind, h⟩
    -- The declarations are read first: when one of them breaks the reading, nothing else matters.
    cases hread : (sourceResources context ResourceKind.all).result with
    | error cause =>
        exact ⟨cause, compile_eq_error_iff.mpr
          (Or.inr ⟨kind, hkind, Or.inl ⟨cause, rfl, hread⟩⟩)⟩
    | ok declared =>
        obtain ⟨hsafe, rfl⟩ := sourceResources_eq_ok_iff.mp hread
        rcases h with ⟨declaration, hdeclaration, cause, hbreaks⟩ | ⟨cause, h⟩ |
          ⟨entry, cause, hentry, h⟩
        · exact absurd hbreaks (hsafe declaration hdeclaration cause)
        · exact ⟨cause, compile_eq_error_iff.mpr
            (Or.inr ⟨kind, hkind, Or.inr ⟨_, hread, Or.inl h⟩⟩)⟩
        · exact ⟨cause, compile_eq_error_iff.mpr
            (Or.inr ⟨kind, hkind, Or.inr ⟨_, hread, Or.inr ⟨entry, hentry, h⟩⟩⟩)⟩

/-- How a compilation ends.  With a shader, the resources are those that the declarations contribute
one by one, so a declaration that is refused is missing and the others are there.  With an issue, it
is one of the kind or of the entry point, never of a declaration.  With an abort, the source or the
settings hold a trap for it; and it ends so exactly when a sound declaration, the entry point or the
emission of the code does. -/
theorem compile_contained (source : Text) (environment : Environment) (settings : Settings) :
    let code := stripComments source
    let context := Context.ofCode code environment settings
    let resources := (allocate (acceptedResources context)).1
    let result := (compile source environment settings).result
    (∀ shader, result = .ok shader → shader.resources = resources) ∧
    (∀ report, result = .error (.issue report) →
      shaderKind code = .error (.issue report) ∨
      ∃ kind, shaderKind code = .ok kind ∧
        entryPoint context resources kind = .error (.issue report)) ∧
    (∀ cause, result = .error (.abort cause) → context.Trap cause) ∧
    ((∃ cause, result = .error (.abort cause)) ↔
      ∃ kind, shaderKind code = .ok kind ∧
        ((∃ declaration ∈ declarations code, ∃ cause, declaration.BreaksWith context cause) ∨
        (∃ cause, entryPoint context resources kind = .error (.abort cause)) ∨
        ∃ entry cause, entryPoint context resources kind = .ok entry ∧
          emit code resources kind entry = .error (.abort cause))) :=
  ⟨fun _ h => (compile_eq_ok_iff.mp h).resources_eq, fun _ h => refused_of_compile_eq_issue h,
    compile_abortsOnly source environment settings, compile_aborts_iff⟩

/-- A slot that is written with a digit which is not decimal is no issue of its declaration: it ends
the whole compilation. -/
theorem declaration_ends_compilation :
    (compile "@group(²) @sampler var s: sampler;".toList [] {}).result
      = .error (.abort (.slotDigits "²".toList)) :=
  rfl

end ShaderMarkup
