import Mathlib.Algebra.Ring.Nat
import ShaderMarkup.Proofs.Allocation
import ShaderMarkup.Proofs.Compilation

/-!
# What a resource is made from

A declaration that is read without a fault has gone through all the stages of its kind.  For each
kind the stages are listed once, with what they yield; facts about resources are read off from
there.  `Compiles.exists_build_of_mem` leads from the resources of a shader back to what was read.
-/

namespace ShaderMarkup

variable {context : Context} {declaration : Declaration} {resource : Resource}

theorem Texture.exists_of_build (h : Texture.build context declaration = .ok resource) :
    ∃ found expression argument values size slot,
      findVariable? textureVariable declaration.text = some found ∧
      filledArgument? declaration.text "size" = some expression ∧
      filledArgument? declaration.text "format" = some argument ∧
      Text.among textureTypes (baseType (Text.collapse found.value.type)) = true ∧
      context.evaluate expression = .ok values ∧
      textureSize values (Text.collapse found.value.type) = .ok size ∧
      isTextureFormat (Text.trim argument) = true ∧
      slotOf declaration.text = .ok slot ∧
      resource = context.resource declaration found.value.name slot [expression]
        (.texture ⟨size, Text.trim argument, Text.collapse found.value.type⟩) := by
  unfold Texture.build at h
  dsimp only at h
  split at h
  · cases h
  · cases h
  · cases h
  next found expression argument hfound hsize hformat =>
    split at h
    next => cases h
    next htype =>
      obtain ⟨values, hvalues, h⟩ := bind_eq_ok_iff.mp h
      obtain ⟨size, hextents, h⟩ := bind_eq_ok_iff.mp h
      split at h
      next => cases h
      next hchecked =>
        obtain ⟨slot, hslot, h⟩ := bind_eq_ok_iff.mp h
        cases h
        exact ⟨found, expression, argument, values, size, slot, hfound, hsize, hformat,
          by simpa using htype, hvalues, hextents, by simpa using hchecked, hslot, rfl⟩

theorem Buffer.exists_of_build (h : Buffer.build context declaration = .ok resource) :
    ∃ found expression type count stride slot,
      findVariable? storageVariable declaration.text = some found ∧
      filledArgument? declaration.text "size" = some expression ∧
      backingType (Text.collapse found.value.type) = .ok type ∧
      singlePositive context "Buffer size" expression = .ok count ∧
      bufferStride context
        ((findDecorator? declaration.text "stride".toList).bind (·.value.argument)) type
          = .ok stride ∧
      checkStride type count stride = .ok () ∧
      slotOf declaration.text = .ok slot ∧
      resource = context.resource declaration found.value.name slot
        (expression
          :: ((findDecorator? declaration.text "stride".toList).bind (·.value.argument)).toList)
        (.buffer ⟨count, type, found.value.access.getD "read".toList, stride⟩) := by
  unfold Buffer.build at h
  dsimp only at h
  split at h
  · cases h
  · cases h
  next found expression hfound hsize =>
    obtain ⟨type, htype, h⟩ := bind_eq_ok_iff.mp h
    obtain ⟨count, hcount, h⟩ := bind_eq_ok_iff.mp h
    obtain ⟨stride, hstride, h⟩ := bind_eq_ok_iff.mp h
    obtain ⟨_, hchecked, h⟩ := bind_eq_ok_iff.mp h
    obtain ⟨slot, hslot, h⟩ := bind_eq_ok_iff.mp h
    cases h
    exact ⟨found, expression, type, count, stride, slot, hfound, hsize, htype, hcount, hstride,
      hchecked, hslot, rfl⟩

/-- The arguments of the parameters that are numbers. -/
def SamplerArguments.numeric (given : SamplerArguments) : List Text :=
  given.filterMap fun entry =>
    match entry.1 with
    | .range _ => some entry.2
    | .choice _ => none

theorem Sampler.exists_of_build (h : Sampler.build context declaration = .ok resource) :
    ∃ found given sampler slot,
      findVariable? samplerVariable declaration.text = some found ∧
      samplerArguments [] (parameterDecorators .sampler declaration.text) = .ok given ∧
      setAll context {} given = .ok sampler ∧
      sampler.checkLevels = .ok () ∧
      slotOf declaration.text = .ok slot ∧
      resource = context.resource declaration found.value.name slot given.numeric
        (.sampler sampler) := by
  unfold Sampler.build at h
  dsimp only at h
  split at h
  · cases h
  next found hfound =>
    obtain ⟨given, hgiven, h⟩ := bind_eq_ok_iff.mp h
    obtain ⟨sampler, hsampler, h⟩ := bind_eq_ok_iff.mp h
    obtain ⟨_, hlevels, h⟩ := bind_eq_ok_iff.mp h
    obtain ⟨slot, hslot, h⟩ := bind_eq_ok_iff.mp h
    cases h
    exact ⟨found, given, sampler, slot, hfound, hgiven, hsampler, hlevels, hslot, rfl⟩

theorem Reference.exists_of_build (h : Reference.build context declaration = .ok resource) :
    ∃ argument node target declared slot category,
      filledArgument? declaration.text "ref" = some argument ∧
      Reader.whole referenceTarget (Text.trim argument) = some (node, target) ∧
      referenceVariable declaration.text = .ok declared ∧
      slotOf declaration.text = .ok slot ∧
      referenceCategory declared.type declaration.text = .ok category ∧
      resource = context.resource declaration declared.name slot []
        (.reference ⟨node, target, declared.type, category, declared.access⟩) := by
  unfold Reference.build at h
  dsimp only at h
  split at h
  · cases h
  next trimmed htrimmed =>
    obtain ⟨argument, hargument, rfl⟩ := Option.map_eq_some_iff.mp htrimmed
    split at h
    · cases h
    next node target htarget =>
      obtain ⟨declared, hdeclared, h⟩ := bind_eq_ok_iff.mp h
      obtain ⟨slot, hslot, h⟩ := bind_eq_ok_iff.mp h
      obtain ⟨category, hcategory, h⟩ := bind_eq_ok_iff.mp h
      cases h
      exact ⟨argument, node, target, declared, slot, category, hargument, htarget, hdeclared,
        hslot, hcategory, rfl⟩

/-! ## Sizes of scalars and vectors -/

theorem nestingBound_eq (structs : StructTable) (type : Text) :
    nestingBound structs type
      = type.length + (structs.entries.map fun entry => entry.2.length + 1).sum + 1 := by
  have hfold (bodies : List Text) (start : Nat) :
      bodies.foldl (fun total body => total + body.length + 1) start
        = start + (bodies.map fun body => body.length + 1).sum := by
    induction bodies generalizing start with
    | nil => rfl
    | cons body bodies ih =>
        rw [List.foldl_cons, ih, List.map_cons, List.sum_cons]
        omega
  rw [nestingBound, hfold, Table.values, List.map_map]
  show type.length + 1 + (structs.entries.map fun entry => entry.2.length + 1).sum = _
  omega

/-- The size of a scalar or a vector is that of its components. -/
theorem typeSize_of_componentCount? {type : Text} {count : Nat} {scalar : Scalar}
    (hcount : (TypeShape.ofText type).componentCount? = some count)
    (hscalar : (TypeShape.ofText type).scalarName?.bind Scalar.ofName? = some scalar)
    (structs : StructTable) : typeSize structs type = .ok (count * scalar.bytes) := by
  rw [typeSize, nestingBound_eq, typeSizeWithin]
  cases hshape : TypeShape.ofText type with
  | scalar base =>
      rw [hshape] at hcount hscalar
      obtain rfl : 1 = count := Option.some.inj hcount
      have hname : scalar.name = base.name := Scalar.ofName?_eq_some_iff.mp hscalar
      obtain rfl : base = scalar := by
        rw [← Option.some.injEq, ← Scalar.ofName?_eq_some_iff.mpr hname]
        exact (Scalar.ofName?_eq_some_iff.mpr rfl).symm
      rw [Nat.one_mul]
  | vector width base =>
      rw [hshape] at hcount hscalar
      obtain rfl : width = count := Option.some.inj hcount
      have hbase : Scalar.ofName? base = some scalar := hscalar
      simp only [scalarSize, hbase, bind_ok, pure_eq_ok]
  | matrix | array | block | named =>
      rw [hshape] at hcount
      cases hcount

/-! ## Fields of uniforms -/

theorem integerField_eq_ok {field type : Text} {unsigned : Bool} {value result : Number}
    (h : integerField field type unsigned value = .ok result) :
    ∃ n, value.toInt? = some n ∧ result = .int n ∧ (unsigned = true → 0 ≤ n) := by
  unfold integerField at h
  split at h
  · cases h
  · split at h
    next n hn =>
      split at h
      · cases h
      next hsign =>
        cases h
        refine ⟨n, hn, rfl, fun hunsigned => ?_⟩
        simpa [hunsigned] using hsign
    next => cases h

/-- The values of a field are as many as its type has components, and they are kept as they are or
taken as integers. -/
theorem fieldValues_eq_ok {field type : Text} {values results : List Number}
    (h : fieldValues field type values = .ok results) :
    ∃ scalar ∈ [Scalar.f32, .i32, .u32],
      (TypeShape.ofText type).componentCount? = some values.length ∧
      (TypeShape.ofText type).scalarName?.bind Scalar.ofName? = some scalar ∧
      (scalar = .f32 ∧ results = values ∨
        scalar ≠ .f32 ∧ values.mapM (integerField field type (scalar = .u32)) = .ok results) := by
  unfold fieldValues at h
  dsimp only at h
  split at h
  next expected scalar hexpected hscalar =>
    split at h
    · cases h
    next hmember =>
      split at h
      · cases h
      next hlength =>
        refine ⟨scalar, not_not.mp hmember, ?_, hscalar, ?_⟩
        · rw [hexpected, not_not.mp hlength]
        · split at h
          next hfloat =>
            cases h
            exact Or.inl ⟨hfloat, rfl⟩
          next hfloat => exact Or.inr ⟨hfloat, h⟩
  next => cases h

theorem fieldEntry_eq_ok {context : Context} {defaults : Table Text Text} {field type : Text}
    {values : List Number} {bytes : Nat}
    (h : fieldEntry context defaults field type = .ok (values, bytes)) :
    ∃ expression evaluated, defaults.find? field = some expression ∧
      context.evaluate expression = .ok evaluated ∧
      fieldValues field type evaluated = .ok values ∧
      typeSize context.structs type = .ok bytes := by
  unfold fieldEntry at h
  split at h
  · cases h
  next expression hexpression =>
    obtain ⟨evaluated, hevaluated, h⟩ := bind_eq_ok_iff.mp h
    obtain ⟨checked, hchecked, h⟩ := bind_eq_ok_iff.mp h
    obtain ⟨size, hsize, h⟩ := bind_eq_ok_iff.mp h
    cases h
    exact ⟨expression, evaluated, hexpression, hevaluated, hchecked, hsize⟩

/-! ## Uniforms -/

/-- The result of a uniform as a chain of its stages. -/
theorem Uniform.result_build (context : Context) (declaration : Declaration) :
    (Uniform.build context declaration).result
      = match findVariable? uniformVariable declaration.text with
        | none => refuse .noUniformVariable
        | some found => (do
            let (uniform, _, defaults) ← layout context declaration.text found.value.type
            let slot ← slotOf declaration.text
            pure (context.resource declaration found.value.name slot defaults.values
              (.uniform uniform))) := by
  unfold Uniform.build
  cases findVariable? uniformVariable declaration.text with
  | none => rfl
  | some found =>
      simp only [Journal.result_bind, Journal.result_ofExcept, Journal.result_write,
        Journal.result_pure, bind_ok, pure_eq_ok]

theorem Uniform.exists_of_build
    (h : (Uniform.build context declaration).result = .ok resource) :
    ∃ found uniform members defaults slot,
      findVariable? uniformVariable declaration.text = some found ∧
      layout context declaration.text found.value.type = .ok (uniform, members, defaults) ∧
      slotOf declaration.text = .ok slot ∧
      resource = context.resource declaration found.value.name slot defaults.values
        (.uniform uniform) := by
  rw [result_build] at h
  split at h
  · cases h
  next found hfound =>
    obtain ⟨⟨uniform, members, defaults⟩, hlayout, h⟩ := bind_eq_ok_iff.mp h
    obtain ⟨slot, hslot, h⟩ := bind_eq_ok_iff.mp h
    cases h
    exact ⟨found, uniform, members, defaults, slot, hfound, hlayout, hslot, rfl⟩

theorem Declaration.kind_of_build
    (h : (declaration.build context).result = .ok resource) :
    resource.kind = declaration.kind := by
  unfold Declaration.build at h
  cases hkind : declaration.kind with
  | texture =>
      rw [hkind] at h
      obtain ⟨_, _, _, _, _, _, -, -, -, -, -, -, -, -, rfl⟩ := Texture.exists_of_build h
      rfl
  | buffer =>
      rw [hkind] at h
      obtain ⟨_, _, _, _, _, _, -, -, -, -, -, -, -, rfl⟩ := Buffer.exists_of_build h
      rfl
  | uniform =>
      rw [hkind] at h
      obtain ⟨_, _, _, _, _, -, -, -, rfl⟩ := Uniform.exists_of_build h
      rfl
  | sampler =>
      rw [hkind] at h
      obtain ⟨_, _, _, _, -, -, -, -, -, rfl⟩ := Sampler.exists_of_build h
      rfl
  | reference =>
      rw [hkind] at h
      obtain ⟨_, _, _, _, _, _, -, -, -, -, -, rfl⟩ := Reference.exists_of_build h
      rfl

/-! ## Resources of a shader -/

section Compilation

variable {source : Text} {environment : Environment} {settings : Settings} {shader : Shader}

/-- The resources of a shader are the accepted ones with their bindings. -/
theorem Compiles.resources_perm (h : Compiles source environment settings shader) :
    (shader.resources.map Resource.unbound).Perm
      ((acceptedResources (.ofCode (stripComments source) environment settings)).map
        Resource.unbound) := by
  rw [h.resources_eq]
  exact allocate_perm _

theorem Compiles.exists_build_of_mem (h : Compiles source environment settings shader)
    (hmem : resource ∈ shader.resources) :
    ∃ (declaration : Declaration) (accepted : Resource),
      (declaration.build (.ofCode (stripComments source) environment settings)).result
        = .ok accepted ∧ accepted.detail = resource.detail := by
  have hunbound := h.resources_perm.mem_iff.mp (List.mem_map_of_mem hmem)
  obtain ⟨accepted, haccepted, hsame⟩ := List.mem_map.mp hunbound
  obtain ⟨declaration, _, hdeclaration⟩ := mem_acceptedResources.mp haccepted
  obtain ⟨_, hbuild⟩ := Declaration.accepted?_eq_some_iff.mp hdeclaration
  exact ⟨declaration, accepted, hbuild, by rw [Resource.eq_of_unbound_eq hsame]⟩

end Compilation

end ShaderMarkup
