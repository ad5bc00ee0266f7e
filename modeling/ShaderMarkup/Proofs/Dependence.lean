import ShaderMarkup.Proofs.Compilation
import ShaderMarkup.Proofs.Construction
import ShaderMarkup.Proofs.Equality
import ShaderMarkup.Proofs.Mention

/-!
# What a resource depends on

`Declaration.expressions` lists the expressions of a declaration, kind by kind.

* The wildcards that a resource is said to depend on are those that the expressions mention, and its
  numbers are finite (`Declaration.build_eq_ok`).
* A resource is made from the values of the expressions and from the text of its source
  (`Declaration.build_under`).  So a wildcard that it does not depend on can be given any value
  (`Declaration.accepted?_under`).
* What has finite numbers equals itself, so a resource that has not changed is seen not to have
  changed (`Detail.IsSound.exact_ne_nan`).
-/

namespace ShaderMarkup

/-! ## Expressions -/

/-- The expression of a texture: its size. -/
def Texture.expressions (text : Text) : List Text :=
  (filledArgument? text "size").toList

/-- The expressions of a buffer: its size and its stride. -/
def Buffer.expressions (text : Text) : List Text :=
  (filledArgument? text "size").toList
    ++ ((findDecorator? text "stride".toList).bind (·.value.argument)).toList

/-- The expressions of a uniform: the default values of its fields. -/
def Uniform.expressions (text : Text) : List Text :=
  match fieldDefaults text with
  | .ok defaults => defaults.values
  | .error _ => []

theorem Uniform.expressions_of_ok {text : Text} {defaults : Table Text Text}
    (h : fieldDefaults text = .ok defaults) : Uniform.expressions text = defaults.values := by
  unfold Uniform.expressions
  rw [h]

/-- The expressions of a sampler: the parameters that are numbers. -/
def Sampler.expressions (text : Text) : List Text :=
  match samplerArguments [] (parameterDecorators .sampler text) with
  | .ok given => given.numeric
  | .error _ => []

theorem Sampler.expressions_of_ok {text : Text} {given : SamplerArguments}
    (h : samplerArguments [] (parameterDecorators .sampler text) = .ok given) :
    Sampler.expressions text = given.numeric := by
  unfold Sampler.expressions
  rw [h]

/-- The expressions that a declaration is evaluated from. -/
def Declaration.expressions (declaration : Declaration) : List Text :=
  match declaration.kind with
  | .texture => Texture.expressions declaration.text
  | .buffer => Buffer.expressions declaration.text
  | .uniform => Uniform.expressions declaration.text
  | .sampler => Sampler.expressions declaration.text
  | .reference => []

/-! ## Finite numbers -/

/-- The numbers of a uniform are finite. -/
def Uniform.IsSound (uniform : Uniform) : Prop :=
  ∀ entry ∈ uniform.fields.entries, ∀ value ∈ entry.2, value.isFinite = true

/-- The numbers of a sampler are finite. -/
structure Sampler.IsSound (sampler : Sampler) : Prop where
  lodMinClamp : ∀ value ∈ sampler.lodMinClamp, value.isFinite = true
  lodMaxClamp : ∀ value ∈ sampler.lodMaxClamp, value.isFinite = true
  maxAnisotropy : ∀ value ∈ sampler.maxAnisotropy, value.isFinite = true

/-- The numbers of what is special to a kind are finite. -/
def Detail.IsSound : Detail → Prop
  | .uniform detail => detail.IsSound
  | .sampler detail => detail.IsSound
  | _ => True

theorem Number.exact_ne_nan {value : Number} (h : value.isFinite = true) : value.exact ≠ .nan := by
  intro hnan
  rw [Number.isFinite, hnan] at h
  cases h

theorem Detail.IsSound.exact_ne_nan {detail : Detail} (h : detail.IsSound) :
    ∀ number ∈ detail.numbers, number.exact ≠ .nan := by
  intro number hnumber
  refine Number.exact_ne_nan ?_
  cases detail with
  | texture texture => cases hnumber
  | buffer buffer => cases hnumber
  | reference reference => cases hnumber
  | uniform detail =>
      obtain ⟨values, hvalues, hmem⟩ := List.mem_flatten.mp hnumber
      obtain ⟨entry, hentry, rfl⟩ := List.mem_map.mp hvalues
      exact h entry hentry number hmem
  | sampler detail =>
      simp only [numbers, List.mem_append, Option.mem_toList] at hnumber
      rcases hnumber with (hnumber | hnumber) | hnumber
      · exact h.lodMinClamp number hnumber
      · exact h.lodMaxClamp number hnumber
      · exact h.maxAnisotropy number hnumber

section Sound

variable {context : Context}

theorem isFinite_of_evaluate {expression : Text} {values : List Number}
    (h : context.evaluate expression = .ok values) : ∀ value ∈ values, value.isFinite = true :=
  fun value hvalue => ((evaluate_eq_ok h).2 value hvalue).2

theorem isFinite_of_fieldValues {field type : Text} {values results : List Number}
    (hvalues : ∀ value ∈ values, value.isFinite = true)
    (h : fieldValues field type values = .ok results) :
    ∀ result ∈ results, result.isFinite = true := by
  obtain ⟨scalar, -, -, -, ⟨-, rfl⟩ | ⟨-, h⟩⟩ := fieldValues_eq_ok h
  · exact hvalues
  · intro result hresult
    obtain ⟨value, -, hvalue⟩ := exists_of_mem_values_of_mapM_eq_ok h hresult
    obtain ⟨n, -, rfl, -⟩ := integerField_eq_ok hvalue
    rfl

theorem isFinite_of_fieldEntries {defaults : Table Text Text} {members : List (Text × Text)}
    {fields : List (Text × List Number)} {total : Nat}
    (h : fieldEntries context defaults members = .ok (fields, total)) :
    ∀ entry ∈ fields, ∀ value ∈ entry.2, value.isFinite = true := by
  induction members generalizing fields total with
  | nil =>
      cases h
      simp
  | cons member rest ih =>
      obtain ⟨field, type⟩ := member
      obtain ⟨⟨values, bytes⟩, hentry, h⟩ := bind_eq_ok_iff.mp h
      obtain ⟨⟨others, total⟩, hothers, h⟩ := bind_eq_ok_iff.mp h
      cases h
      obtain ⟨_, _, -, hevaluated, hchecked, -⟩ := fieldEntry_eq_ok hentry
      have hvalues := isFinite_of_fieldValues (isFinite_of_evaluate hevaluated) hchecked
      exact List.forall_mem_cons.mpr ⟨hvalues, ih hothers⟩

theorem Uniform.isSound_of_layout {text structType : Text} {uniform : Uniform}
    {members defaults : Table Text Text}
    (h : layout context text structType = .ok (uniform, members, defaults)) : uniform.IsSound := by
  obtain ⟨read, hread, h⟩ := bind_eq_ok_iff.mp h
  obtain ⟨_, _, h⟩ := bind_eq_ok_iff.mp h
  obtain ⟨⟨fields, byteSize⟩, hfields, h⟩ := bind_eq_ok_iff.mp h
  cases h
  exact fun entry hentry => isFinite_of_fieldEntries hfields entry (Table.mem_entries_ofList hentry)

theorem Sampler.IsSound.setWord {sampler : Sampler} (h : sampler.IsSound)
    (parameter : ChoiceParameter) (word : Text) : (sampler.setWord parameter word).IsSound := by
  cases parameter <;> exact ⟨h.lodMinClamp, h.lodMaxClamp, h.maxAnisotropy⟩

theorem Sampler.IsSound.setNumber {sampler : Sampler} (h : sampler.IsSound)
    (parameter : RangeParameter) {value : Number} (hvalue : value.isFinite = true) :
    (sampler.setNumber parameter value).IsSound := by
  have hset : ∀ number ∈ some value, number.isFinite = true := fun number hnumber =>
    Option.some.inj hnumber ▸ hvalue
  cases parameter with
  | lodMinClamp => exact ⟨hset, h.lodMaxClamp, h.maxAnisotropy⟩
  | lodMaxClamp => exact ⟨h.lodMinClamp, hset, h.maxAnisotropy⟩
  | maxAnisotropy => exact ⟨h.lodMinClamp, h.lodMaxClamp, hset⟩

theorem RangeParameter.mem_of_check {parameter : RangeParameter} {values : List Number}
    {value : Number} (h : parameter.check values = .ok value) : value ∈ values := by
  unfold RangeParameter.check at h
  split at h
  · split at h
    · cases h
      exact List.mem_singleton_self _
    · cases h
  · cases h

theorem Sampler.IsSound.setAll {sampler result : Sampler} (hsampler : sampler.IsSound)
    {given : SamplerArguments} (h : setAll context sampler given = .ok result) :
    result.IsSound := by
  induction given generalizing sampler with
  | nil =>
      cases h
      exact hsampler
  | cons entry rest ih =>
      obtain ⟨parameter | parameter, argument⟩ := entry
      · obtain ⟨word, _, h⟩ := bind_eq_ok_iff.mp h
        exact ih (hsampler.setWord parameter word) h
      · obtain ⟨values, hvalues, h⟩ := bind_eq_ok_iff.mp h
        obtain ⟨value, hvalue, h⟩ := bind_eq_ok_iff.mp h
        have hfinite := isFinite_of_evaluate hvalues value (RangeParameter.mem_of_check hvalue)
        exact ih (hsampler.setNumber parameter hfinite) h

end Sound

/-! ## What is built -/

section Built

variable {context : Context} {declaration : Declaration} {resource : Resource}

theorem Texture.build_eq_ok (h : Texture.build context declaration = .ok resource) :
    resource.wildcards = context.mentioned (expressions declaration.text) ∧
      resource.detail.IsSound := by
  obtain ⟨found, expression, argument, values, size, slot, -, hsize, -, -, -, -, -, -, rfl⟩ :=
    exists_of_build h
  rw [expressions, hsize]
  exact ⟨rfl, trivial⟩

theorem Buffer.build_eq_ok (h : Buffer.build context declaration = .ok resource) :
    resource.wildcards = context.mentioned (expressions declaration.text) ∧
      resource.detail.IsSound := by
  obtain ⟨found, expression, type, count, stride, slot, -, hsize, -, -, -, -, -, rfl⟩ :=
    exists_of_build h
  rw [expressions, hsize]
  exact ⟨rfl, trivial⟩

theorem Sampler.build_eq_ok (h : Sampler.build context declaration = .ok resource) :
    resource.wildcards = context.mentioned (expressions declaration.text) ∧
      resource.detail.IsSound := by
  obtain ⟨found, given, sampler, slot, -, hgiven, hsampler, -, -, rfl⟩ := exists_of_build h
  rw [expressions, hgiven]
  exact ⟨rfl, IsSound.setAll ⟨by simp, by simp, by simp⟩ hsampler⟩

theorem Reference.build_eq_ok (h : Reference.build context declaration = .ok resource) :
    resource.wildcards = context.mentioned [] ∧ resource.detail.IsSound := by
  obtain ⟨argument, node, target, declared, slot, category, -, -, -, -, -, rfl⟩ :=
    exists_of_build h
  exact ⟨rfl, trivial⟩

theorem Uniform.build_eq_ok (h : (Uniform.build context declaration).result = .ok resource) :
    resource.wildcards = context.mentioned (expressions declaration.text) ∧
      resource.detail.IsSound := by
  obtain ⟨found, uniform, members, defaults, slot, -, hlayout, -, rfl⟩ := exists_of_build h
  refine ⟨?_, isSound_of_layout hlayout⟩
  obtain ⟨_, _, hlayout⟩ := bind_eq_ok_iff.mp hlayout
  obtain ⟨_, hdefaults, hlayout⟩ := bind_eq_ok_iff.mp hlayout
  obtain ⟨_, _, hlayout⟩ := bind_eq_ok_iff.mp hlayout
  cases hlayout
  rw [expressions, hdefaults]
  rfl

/-- A resource depends on the wildcards that the expressions of its declaration mention, and what
is special to its kind is sound. -/
theorem Declaration.build_eq_ok
    (h : (declaration.build context).result = .ok resource) :
    resource.wildcards = context.mentioned declaration.expressions ∧
      resource.detail.IsSound := by
  unfold Declaration.build at h
  unfold Declaration.expressions
  cases hkind : declaration.kind with
  | texture =>
      rw [hkind] at h
      exact Texture.build_eq_ok h
  | buffer =>
      rw [hkind] at h
      exact Buffer.build_eq_ok h
  | uniform =>
      rw [hkind] at h
      exact Uniform.build_eq_ok h
  | sampler =>
      rw [hkind] at h
      exact Sampler.build_eq_ok h
  | reference =>
      rw [hkind] at h
      exact Reference.build_eq_ok h

end Built

/-! ## The values of expressions -/

/-- The context with other wildcards. -/
def Context.under (context : Context) (environment : Environment) : Context :=
  { context with environment }

section Values

variable {context : Context} {environment : Environment} {declaration : Declaration}

theorem Context.resource_under : (context.under environment).resource = context.resource :=
  rfl

theorem Texture.build_under
    (h : ∀ expression ∈ expressions declaration.text,
      (context.under environment).evaluate expression = context.evaluate expression) :
    Texture.build (context.under environment) declaration = Texture.build context declaration := by
  unfold Texture.build
  dsimp only
  cases findVariable? textureVariable declaration.text with
  | none => rfl
  | some found =>
      cases hsize : filledArgument? declaration.text "size" with
      | none => rfl
      | some size =>
          have hvalues := h size (by simp [expressions, hsize])
          cases filledArgument? declaration.text "format" with
          | none => rfl
          | some format =>
              dsimp only
              rw [hvalues]
              rfl

theorem singlePositive_under {what : String} {expression : Text}
    (h : (context.under environment).evaluate expression = context.evaluate expression) :
    singlePositive (context.under environment) what expression
      = singlePositive context what expression := by
  unfold singlePositive
  rw [h]

theorem bufferStride_under {decorated : Option Text} {type : Text}
    (h : ∀ expression ∈ decorated,
      (context.under environment).evaluate expression = context.evaluate expression) :
    bufferStride (context.under environment) decorated type = bufferStride context decorated type := by
  unfold bufferStride
  split
  · rw [singlePositive_under (h _ rfl)]
  · rfl

theorem Buffer.build_under
    (h : ∀ expression ∈ expressions declaration.text,
      (context.under environment).evaluate expression = context.evaluate expression) :
    Buffer.build (context.under environment) declaration = Buffer.build context declaration := by
  unfold Buffer.build
  dsimp only
  cases findVariable? storageVariable declaration.text with
  | none => rfl
  | some found =>
      cases hsize : filledArgument? declaration.text "size" with
      | none => rfl
      | some size =>
          have hvalues := h size (List.mem_append_left _ (Option.mem_toList.mpr hsize))
          have hstride : bufferStride (context.under environment)
              ((findDecorator? declaration.text "stride".toList).bind (·.value.argument))
                = bufferStride context
                  ((findDecorator? declaration.text "stride".toList).bind (·.value.argument)) :=
            funext fun type => bufferStride_under fun expression hmem =>
              h expression (List.mem_append_right _ (Option.mem_toList.mpr hmem))
          dsimp only
          rw [singlePositive_under hvalues, hstride]
          rfl

theorem fieldEntries_under {defaults : Table Text Text} {members : List (Text × Text)}
    (h : ∀ expression ∈ defaults.values,
      (context.under environment).evaluate expression = context.evaluate expression) :
    fieldEntries (context.under environment) defaults members
      = fieldEntries context defaults members := by
  induction members with
  | nil => rfl
  | cons member rest ih =>
      obtain ⟨field, type⟩ := member
      have hentry : fieldEntry (context.under environment) defaults field type
          = fieldEntry context defaults field type := by
        unfold fieldEntry
        cases hfind : defaults.find? field with
        | none => rfl
        | some expression =>
            have hmem : expression ∈ defaults.values :=
              List.mem_map.mpr ⟨_, Table.mem_of_find?_eq_some hfind, rfl⟩
            dsimp only
            rw [h expression hmem]
            rfl
      rw [fieldEntries, fieldEntries, hentry, ih]

theorem Uniform.build_under
    (h : ∀ expression ∈ expressions declaration.text,
      (context.under environment).evaluate expression = context.evaluate expression) :
    (Uniform.build (context.under environment) declaration).result
      = (Uniform.build context declaration).result := by
  have hlayout : ∀ type, layout (context.under environment) declaration.text type
      = layout context declaration.text type := by
    intro type
    unfold layout
    cases hdefaults : fieldDefaults declaration.text with
    | error fault =>
        simp only [bind_error]
        rfl
    | ok defaults =>
        have hvalues : ∀ members, fieldEntries (context.under environment) defaults members
            = fieldEntries context defaults members :=
          fun members => fieldEntries_under (expressions_of_ok hdefaults ▸ h)
        simp only [bind_ok, hvalues]
        rfl
  rw [result_build, result_build]
  simp only [hlayout, Context.resource_under]

theorem Sampler.setAll_under {sampler : Sampler} {given : SamplerArguments}
    (h : ∀ expression ∈ given.numeric,
      (context.under environment).evaluate expression = context.evaluate expression) :
    setAll (context.under environment) sampler given = setAll context sampler given := by
  induction given generalizing sampler with
  | nil => rfl
  | cons entry rest ih =>
      obtain ⟨parameter | parameter, argument⟩ := entry
      · have hrest : ∀ sampler, setAll (context.under environment) sampler rest
            = setAll context sampler rest := fun sampler => ih h
        simp only [setAll, hrest]
      · have hnumeric : SamplerArguments.numeric ((.range parameter, argument) :: rest)
            = argument :: SamplerArguments.numeric rest := rfl
        rw [hnumeric, List.forall_mem_cons] at h
        have hrest : ∀ sampler, setAll (context.under environment) sampler rest
            = setAll context sampler rest := fun sampler => ih h.2
        simp only [setAll, h.1, hrest]

theorem Sampler.build_under
    (h : ∀ expression ∈ expressions declaration.text,
      (context.under environment).evaluate expression = context.evaluate expression) :
    Sampler.build (context.under environment) declaration = Sampler.build context declaration := by
  unfold Sampler.build
  dsimp only
  cases findVariable? samplerVariable declaration.text with
  | none => rfl
  | some found =>
      cases hgiven : samplerArguments [] (parameterDecorators .sampler declaration.text) with
      | error fault => simp only [bind_error]
      | ok given =>
          have hset : setAll (context.under environment) {} given = setAll context {} given :=
            setAll_under (expressions_of_ok hgiven ▸ h)
          simp only [bind_ok, hset, Context.resource_under]

/-- A declaration is read alike where its expressions have the same values. -/
theorem Declaration.build_under
    (h : ∀ expression ∈ declaration.expressions,
      (context.under environment).evaluate expression = context.evaluate expression) :
    (declaration.build (context.under environment)).result = (declaration.build context).result := by
  unfold Declaration.build
  unfold Declaration.expressions at h
  cases hkind : declaration.kind with
  | texture =>
      rw [hkind] at h
      exact Texture.build_under h
  | buffer =>
      rw [hkind] at h
      exact Buffer.build_under h
  | uniform =>
      rw [hkind] at h
      exact Uniform.build_under h
  | sampler =>
      rw [hkind] at h
      exact Sampler.build_under h
  | reference => rfl

/-- A declaration that is accepted without a wildcard among those of its resource is accepted
alike whatever the wildcard is. -/
theorem Declaration.accepted?_under {name : Text} {resource : Resource}
    (hmarker : context.settings.marker = infoMarker)
    (hagree : context.environment.AgreeBut name environment)
    (h : declaration.accepted? context = some resource) (hname : name ∉ resource.wildcards) :
    declaration.accepted? (context.under environment) = some resource := by
  obtain ⟨hissues, hbuild⟩ := accepted?_eq_some_iff.mp h
  refine accepted?_eq_some_iff.mpr ⟨hissues, ?_⟩
  rw [build_under, hbuild]
  intro expression hexpression
  rw [(build_eq_ok hbuild).1, Context.mentioned, mem_nameSet, hmarker] at hname
  have hmentioned : name ∉ mentionedWildcards infoMarker expression := fun hmem =>
    hname (List.mem_flatMap.mpr ⟨expression, hexpression, hmem⟩)
  have hvalues := evaluate_eq_of_not_mentioned hagree hmentioned
  unfold Context.evaluate Context.under
  rw [hmarker, hvalues]

end Values

end ShaderMarkup
