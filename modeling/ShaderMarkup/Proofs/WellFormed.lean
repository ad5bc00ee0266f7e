import ShaderMarkup.Proofs.Dependence
import ShaderMarkup.Proofs.Placement
import ShaderMarkup.Proofs.Rank
import ShaderMarkup.Proofs.Rational
import ShaderMarkup.Proofs.Slots

/-!
# Compiled resources are well-formed

Whatever the source, the wildcards and the settings are, a compilation that succeeds yields
resources that can be put on a device: sizes and counts are positive, slots are natural numbers,
words come from their lists, and numbers lie in their ranges.

* The checks are made in the stages of each kind, so well-formedness is proved kind by kind
  (`Declaration.isWellFormed_of_build`), from one lemma for each stage.
* Allocation adds bindings and changes nothing else (`Resource.HasNaturalSlot.allocate`).
* Declarations are counted, so their indices differ (`distinctIndices_acceptedResources`).
-/

namespace ShaderMarkup

/-! ## What well-formed means -/

/-- The number is finite and lies between two bounds. -/
def Number.Within (least most : ℚ) (value : Number) : Prop :=
  ∃ p, value.rational? = some p ∧ least ≤ p ∧ p ≤ most

structure Texture.IsWellFormed (texture : Texture) : Prop where
  type : baseType texture.type ∈ textureTypes
  dimensions : texture.size.length = textureDimensions texture.type
  extents : ∀ extent ∈ texture.size, 1 ≤ extent

structure Buffer.IsWellFormed (buffer : Buffer) : Prop where
  elementCount : 1 ≤ buffer.elementCount
  access : buffer.access = "read".toList ∨ buffer.access = "read_write".toList
  stride : ∀ stride ∈ buffer.stride, 1 ≤ stride
  structured : Text.includes "structured".toList buffer.elementType = true →
    ∃ stride, buffer.stride = some stride ∧ stride ∣ buffer.elementCount

/-- The word that a sampler has for a parameter. -/
def Sampler.word? (sampler : Sampler) : ChoiceParameter → Option Text
  | .addressModeU => sampler.addressModeU
  | .addressModeV => sampler.addressModeV
  | .addressModeW => sampler.addressModeW
  | .magFilter => sampler.magFilter
  | .minFilter => sampler.minFilter
  | .mipmapFilter => sampler.mipmapFilter
  | .compare => sampler.compare

/-- The number that a sampler has for a parameter. -/
def Sampler.number? (sampler : Sampler) : RangeParameter → Option Number
  | .lodMinClamp => sampler.lodMinClamp
  | .lodMaxClamp => sampler.lodMaxClamp
  | .maxAnisotropy => sampler.maxAnisotropy

structure Sampler.IsWellFormed (sampler : Sampler) : Prop where
  words : ∀ parameter, ∀ word ∈ sampler.word? parameter, word ∈ parameter.allowed
  lodMinClamp : ∀ value ∈ sampler.lodMinClamp, value.Within 0 32
  lodMaxClamp : ∀ value ∈ sampler.lodMaxClamp, value.Within 0 32
  maxAnisotropy : ∀ value ∈ sampler.maxAnisotropy, value.Within 1 16
  levels : ∀ least ∈ sampler.lodMinClamp, ∀ most ∈ sampler.lodMaxClamp, ∃ p q,
    least.rational? = some p ∧ most.rational? = some q ∧ p ≤ q

structure Reference.IsWellFormed (reference : Reference) : Prop where
  targetNode : Reader.IsIdentifier reference.targetNode
  targetResource : Reader.IsIdentifier reference.targetResource
  access : reference.access.isSome → reference.category = .storage

/-- What is special to a kind is well-formed.  The fields of uniforms are laid out by their struct
and have no bounds. -/
def Detail.IsWellFormed : Detail → Prop
  | .texture detail => detail.IsWellFormed
  | .buffer detail => detail.IsWellFormed
  | .uniform _ => True
  | .sampler detail => detail.IsWellFormed
  | .reference detail => detail.IsWellFormed

/-- The group is a natural number, and so is the binding, once there is one. -/
structure Resource.HasNaturalSlot (resource : Resource) : Prop where
  group : 0 ≤ resource.group
  binding : ∀ binding ∈ resource.binding, 0 ≤ binding

/-- The resources of a shader are in the order of their slots, come from different declarations,
and each has a slot and is well-formed. -/
structure Shader.IsWellFormed (shader : Shader) : Prop where
  sorted : shader.resources.Pairwise fun a b =>
    a.group < b.group ∨ a.group = b.group ∧ a.bindingNumber ≤ b.bindingNumber
  indices : shader.resources.Pairwise fun a b => a.declarationIndex ≠ b.declarationIndex
  slot : ∀ resource ∈ shader.resources,
    0 ≤ resource.group ∧ ∃ binding, resource.binding = some binding ∧ 0 ≤ binding
  detail : ∀ resource ∈ shader.resources, resource.detail.IsWellFormed

/-! ## Sizes and slots -/

theorem one_le_of_positiveInteger {what : Text} {value : Number} {n : Int}
    (h : positiveInteger what value = .ok n) : 1 ≤ n := by
  unfold positiveInteger at h
  split at h
  · cases h
  next hpositive =>
    split at h
    · cases h
    · split at h
      next m hinteger =>
        cases h
        have hvalue := Number.rational?_of_toInt? hinteger
        have hzero := Number.rational?_int 0
        rw [Number.atMost_iff hvalue hzero, not_le, Int.cast_lt] at hpositive
        omega
      next => cases h

theorem slotPart_nonneg {text : Text} {name : String} {part : Option Int}
    (h : slotPart text name = .ok part) : ∀ number ∈ part, 0 ≤ number := by
  unfold slotPart at h
  split at h
  · cases h
    simp
  · obtain ⟨number, _, h⟩ := bind_eq_ok_iff.mp h
    cases h
    simp

theorem Context.hasNaturalSlot_resource {context : Context} {declaration : Declaration}
    {text : Text} {slot : Int × Option Int} (h : slotOf text = .ok slot) (name : Text)
    (expressions : List Text) (detail : Detail) :
    (context.resource declaration name slot expressions detail).HasNaturalSlot := by
  obtain ⟨group, hgroup, h⟩ := bind_eq_ok_iff.mp h
  obtain ⟨binding, hbinding, h⟩ := bind_eq_ok_iff.mp h
  cases h
  refine ⟨?_, slotPart_nonneg hbinding⟩
  show 0 ≤ group.getD 0
  cases group with
  | none => exact Int.le_refl 0
  | some number => exact slotPart_nonneg hgroup number rfl

/-! ## Textures -/

theorem length_of_fitSize {values fitted : List Number} {type : Text}
    (h : fitSize values type = .ok fitted) : fitted.length = textureDimensions type := by
  unfold fitSize at h
  dsimp only at h
  split at h
  · cases h
  next hmost =>
    split at h
    next hless =>
      split at h
      · cases h
      · unfold repeatLast at h
        split at h
        · cases h
        · cases h
          rw [List.length_append, List.length_replicate]
          omega
    next hless =>
      cases h
      omega

theorem extentsFrom_eq_ok {position : Nat} {values : List Number} {size : List Int}
    (h : extentsFrom position values = .ok size) :
    size.length = values.length ∧ ∀ extent ∈ size, 1 ≤ extent := by
  induction values generalizing position size with
  | nil =>
      cases h
      simp
  | cons value values ih =>
      obtain ⟨extent, hextent, h⟩ := bind_eq_ok_iff.mp h
      obtain ⟨others, hothers, h⟩ := bind_eq_ok_iff.mp h
      cases h
      obtain ⟨hlength, hpositive⟩ := ih hothers
      rw [List.length_cons, List.length_cons, hlength, List.forall_mem_cons]
      exact ⟨rfl, one_le_of_positiveInteger hextent, hpositive⟩

section Build

variable {context : Context} {declaration : Declaration} {resource : Resource}

theorem Texture.isWellFormed_of_build (h : Texture.build context declaration = .ok resource) :
    resource.HasNaturalSlot ∧ resource.detail.IsWellFormed := by
  obtain ⟨found, expression, argument, values, size, slot, -, -, -, htype, -, hsize, -, hslot,
    rfl⟩ := exists_of_build h
  refine ⟨Context.hasNaturalSlot_resource hslot _ _ _, ?_⟩
  obtain ⟨fitted, hfitted, hextents⟩ := bind_eq_ok_iff.mp hsize
  obtain ⟨hlength, hpositive⟩ := extentsFrom_eq_ok hextents
  exact {
    type := by simpa [Text.among] using htype
    dimensions := hlength.trans (length_of_fitSize hfitted)
    extents := hpositive }

/-! ## Buffers -/

theorem one_le_of_singlePositive {what : String} {expression : Text} {n : Int}
    (h : singlePositive context what expression = .ok n) : 1 ≤ n := by
  obtain ⟨values, _, h⟩ := bind_eq_ok_iff.mp h
  split at h
  · exact one_le_of_positiveInteger h
  · cases h

theorem one_le_of_bufferStride {decorated : Option Text} {type : Text} {stride : Option Int}
    (h : bufferStride context decorated type = .ok stride) : ∀ n ∈ stride, 1 ≤ n := by
  unfold bufferStride at h
  split at h
  · obtain ⟨n, hn, h⟩ := bind_eq_ok_iff.mp h
    cases h
    simpa using one_le_of_singlePositive hn
  · split at h
    · cases h
      simp
    · dsimp only at h
      split at h
      · cases h
      · obtain ⟨n, hn, h⟩ := bind_eq_ok_iff.mp h
        cases h
        simpa using one_le_of_positiveInteger hn

theorem dvd_of_checkStride {type : Text} {size : Int} {stride : Option Int}
    (h : checkStride type size stride = .ok ())
    (hstructured : Text.includes "structured".toList type = true) :
    ∃ n, stride = some n ∧ n ∣ size := by
  unfold checkStride at h
  rw [hstructured, if_neg (by decide)] at h
  split at h
  · cases h
  next n =>
    split at h
    next hsize => exact ⟨n, rfl, Int.dvd_of_emod_eq_zero hsize⟩
    next => cases h

/-- A storage variable says its access, and the address space stands in front of it. -/
theorem exists_of_storageVariable {text rest : Text} {declared : Variable}
    (h : storageVariable text = some (declared, rest)) :
    (∃ access, declared.access = some access ∧
      (access = "read".toList ∨ access = "read_write".toList)) ∧
    ∃ left right, text = left ++ right ∧ (addressSpace "storage" right).isSome := by
  obtain ⟨access, _, hqualifier, h⟩ := Reader.bind_eq_some_iff.mp h
  obtain ⟨name, _, _, h⟩ := Reader.bind_eq_some_iff.mp h
  obtain ⟨type, _, _, h⟩ := Reader.bind_eq_some_iff.mp h
  obtain ⟨block, _, _, h⟩ := Reader.bind_eq_some_iff.mp h
  cases h
  obtain ⟨_, afterWord, hword, hqualifier⟩ := Reader.bind_eq_some_iff.mp hqualifier
  obtain ⟨_, opening, hblanks, hqualifier⟩ := Reader.bind_eq_some_iff.mp hqualifier
  obtain ⟨_, inside, hsymbol, hqualifier⟩ := Reader.bind_eq_some_iff.mp hqualifier
  obtain ⟨_, space, hspace, hqualifier⟩ := Reader.bind_eq_some_iff.mp hqualifier
  obtain ⟨_, behind, hstorage, hqualifier⟩ := Reader.bind_eq_some_iff.mp hqualifier
  obtain ⟨_, _, _, hqualifier⟩ := Reader.bind_eq_some_iff.mp hqualifier
  obtain ⟨_, _, _, hqualifier⟩ := Reader.bind_eq_some_iff.mp hqualifier
  obtain ⟨_, _, _, hqualifier⟩ := Reader.bind_eq_some_iff.mp hqualifier
  obtain ⟨word, _, haccess, hqualifier⟩ := Reader.bind_eq_some_iff.mp hqualifier
  obtain ⟨_, _, _, hqualifier⟩ := Reader.bind_eq_some_iff.mp hqualifier
  obtain ⟨_, _, _, hqualifier⟩ := Reader.bind_eq_some_iff.mp hqualifier
  cases hqualifier
  constructor
  · refine ⟨access, rfl, ?_⟩
    rcases Reader.orElse_eq_some_iff.mp haccess with haccess | ⟨_, haccess⟩
    · obtain ⟨_, _, _, haccess⟩ := Reader.bind_eq_some_iff.mp haccess
      cases haccess
      exact Or.inr rfl
    · obtain ⟨_, _, _, haccess⟩ := Reader.bind_eq_some_iff.mp haccess
      cases haccess
      exact Or.inl rfl
  · obtain ⟨front, hfront⟩ :=
      (Reader.Takes.blanks _ _ _ hblanks).trans (Reader.Takes.word _ _ _ _ hword)
    refine ⟨front, opening, hfront.symm, ?_⟩
    rw [addressSpace, Reader.bind_of_some hsymbol, Reader.bind_of_some hspace, hstorage]
    rfl

theorem Buffer.isWellFormed_of_build (h : Buffer.build context declaration = .ok resource) :
    resource.HasNaturalSlot ∧ resource.detail.IsWellFormed := by
  obtain ⟨found, expression, type, count, stride, slot, hfound, -, -, hcount, hstride, hchecked,
    hslot, rfl⟩ := exists_of_build h
  refine ⟨Context.hasNaturalSlot_resource hslot _ _ _, ?_⟩
  obtain ⟨_, _, _, _, _, hread⟩ := exists_of_findVariable? hfound
  obtain ⟨⟨access, haccess, hword⟩, _⟩ := exists_of_storageVariable hread
  exact {
    elementCount := one_le_of_singlePositive hcount
    access := by rwa [haccess]
    stride := one_le_of_bufferStride hstride
    structured := dvd_of_checkStride hchecked }

/-! ## Samplers -/

theorem ChoiceParameter.mem_of_check {parameter : ChoiceParameter} {word result : Text}
    (h : parameter.check word = .ok result) : result ∈ parameter.allowed := by
  unfold ChoiceParameter.check at h
  split at h
  next hamong =>
    cases h
    simpa [Text.among] using hamong
  next => cases h

theorem RangeParameter.within_of_check {parameter : RangeParameter} {values : List Number}
    {value : Number} (h : parameter.check values = .ok value)
    (hfinite : ∀ value ∈ values, value.isFinite = true) :
    value.Within parameter.least parameter.most := by
  obtain ⟨p, hp⟩ := Number.exists_rational?_of_isFinite (hfinite value (mem_of_check h))
  unfold RangeParameter.check at h
  split at h
  · split at h
    next hrange =>
      cases h
      rw [Bool.and_eq_true, Number.atMost_iff (Number.rational?_int _) hp,
        Number.atMost_iff hp (Number.rational?_int _)] at hrange
      exact ⟨p, hp, hrange⟩
    next => cases h
  next => cases h

/-- Every parameter that is set has passed its check. -/
structure Sampler.IsChecked (sampler : Sampler) : Prop where
  words : ∀ parameter, ∀ word ∈ sampler.word? parameter, word ∈ parameter.allowed
  numbers : ∀ parameter, ∀ value ∈ sampler.number? parameter,
    value.Within parameter.least parameter.most

theorem Sampler.word?_setWord (sampler : Sampler) (parameter other : ChoiceParameter)
    (word : Text) : (sampler.setWord parameter word).word? other
      = if other = parameter then some word else sampler.word? other := by
  cases parameter <;> cases other <;> rfl

theorem Sampler.number?_setWord (sampler : Sampler) (parameter : ChoiceParameter) (word : Text) :
    (sampler.setWord parameter word).number? = sampler.number? := by
  cases parameter <;> rfl

theorem Sampler.number?_setNumber (sampler : Sampler) (parameter other : RangeParameter)
    (value : Number) : (sampler.setNumber parameter value).number? other
      = if other = parameter then some value else sampler.number? other := by
  cases parameter <;> cases other <;> rfl

theorem Sampler.word?_setNumber (sampler : Sampler) (parameter : RangeParameter)
    (value : Number) : (sampler.setNumber parameter value).word? = sampler.word? := by
  cases parameter <;> rfl

theorem Sampler.IsChecked.setWord {sampler : Sampler} (h : sampler.IsChecked)
    {parameter : ChoiceParameter} {word : Text} (hword : word ∈ parameter.allowed) :
    (sampler.setWord parameter word).IsChecked where
  words := by
    intro other written hwritten
    rw [word?_setWord] at hwritten
    split at hwritten
    next heq =>
      cases hwritten
      rwa [heq]
    next => exact h.words other written hwritten
  numbers := by
    rw [number?_setWord]
    exact h.numbers

theorem Sampler.IsChecked.setNumber {sampler : Sampler} (h : sampler.IsChecked)
    {parameter : RangeParameter} {value : Number}
    (hvalue : value.Within parameter.least parameter.most) :
    (sampler.setNumber parameter value).IsChecked where
  words := by
    rw [word?_setNumber]
    exact h.words
  numbers := by
    intro other written hwritten
    rw [number?_setNumber] at hwritten
    split at hwritten
    next heq =>
      cases hwritten
      rwa [heq]
    next => exact h.numbers other written hwritten

/-- The loop over the parameters keeps every parameter checked. -/
theorem Sampler.IsChecked.setAll {sampler result : Sampler} (hsampler : sampler.IsChecked)
    {given : SamplerArguments} (h : setAll context sampler given = .ok result) :
    result.IsChecked := by
  induction given generalizing sampler with
  | nil =>
      cases h
      exact hsampler
  | cons entry rest ih =>
      obtain ⟨parameter | parameter, argument⟩ := entry
      · obtain ⟨word, hword, h⟩ := bind_eq_ok_iff.mp h
        exact ih (hsampler.setWord (ChoiceParameter.mem_of_check hword)) h
      · obtain ⟨values, hvalues, h⟩ := bind_eq_ok_iff.mp h
        obtain ⟨value, hvalue, h⟩ := bind_eq_ok_iff.mp h
        have hwithin := RangeParameter.within_of_check hvalue (isFinite_of_evaluate hvalues)
        exact ih (hsampler.setNumber hwithin) h

theorem Sampler.isWellFormed_of_build (h : Sampler.build context declaration = .ok resource) :
    resource.HasNaturalSlot ∧ resource.detail.IsWellFormed := by
  obtain ⟨found, given, sampler, slot, -, -, hsampler, hlevels, hslot, rfl⟩ := exists_of_build h
  refine ⟨Context.hasNaturalSlot_resource hslot _ _ _, ?_⟩
  have hinitial : IsChecked {} :=
    ⟨fun parameter => by cases parameter <;> simp [word?],
      fun parameter => by cases parameter <;> simp [number?]⟩
  have hchecked : sampler.IsChecked := hinitial.setAll hsampler
  refine {
    words := hchecked.words
    lodMinClamp := hchecked.numbers .lodMinClamp
    lodMaxClamp := hchecked.numbers .lodMaxClamp
    maxAnisotropy := hchecked.numbers .maxAnisotropy
    levels := ?_ }
  intro least hleast most hmost
  obtain ⟨p, hp, _⟩ := hchecked.numbers .lodMinClamp least hleast
  obtain ⟨q, hq, _⟩ := hchecked.numbers .lodMaxClamp most hmost
  rw [Option.mem_def] at hleast hmost
  rw [checkLevels, hleast, hmost] at hlevels
  dsimp only at hlevels
  split at hlevels
  next => cases hlevels
  next hbelow =>
    rw [Number.below_iff hq hp, not_lt] at hbelow
    exact ⟨p, q, hp, hq, hbelow⟩

/-! ## References -/

theorem access_of_anyUniformVariable {text rest : Text} {declared : Variable}
    (h : anyUniformVariable text = some (declared, rest)) : declared.access = none := by
  obtain ⟨_, _, _, h⟩ := Reader.bind_eq_some_iff.mp h
  obtain ⟨_, _, _, h⟩ := Reader.bind_eq_some_iff.mp h
  obtain ⟨_, _, _, h⟩ := Reader.bind_eq_some_iff.mp h
  cases h
  rfl

theorem access_of_anyPlainVariable {text rest : Text} {declared : Variable}
    (h : anyPlainVariable text = some (declared, rest)) : declared.access = none := by
  obtain ⟨_, _, _, h⟩ := Reader.bind_eq_some_iff.mp h
  obtain ⟨_, _, _, h⟩ := Reader.bind_eq_some_iff.mp h
  cases h
  rfl

/-- The variable of a reference has an access only where it is a storage variable. -/
theorem category_of_access {text : Text} {declared : Variable} {category : Category}
    (hdeclared : referenceVariable text = .ok declared)
    (hcategory : referenceCategory declared.type text = .ok category)
    (haccess : declared.access.isSome) : category = .storage := by
  have hstorage : occurs (anywhere (addressSpace "storage")) text = true := by
    unfold referenceVariable at hdeclared
    dsimp only at hdeclared
    split at hdeclared
    next found hfound =>
      cases hdeclared
      obtain ⟨shape, hshape, hfound⟩ := List.exists_of_findSome?_eq_some hfound
      obtain ⟨left, right, rest, htext, _, hread⟩ := exists_of_findVariable? hfound
      simp only [List.mem_cons, List.not_mem_nil, or_false] at hshape
      rcases hshape with rfl | rfl | rfl
      · obtain ⟨_, front, back, hright, hspace⟩ := exists_of_storageVariable hread
        have hback : text = (left ++ front) ++ back := by
          rw [htext, hright, List.append_assoc]
        exact occurs_of_suffix hback hspace
      · rw [access_of_anyUniformVariable hread] at haccess
        cases haccess
      · rw [access_of_anyPlainVariable hread] at haccess
        cases haccess
    next => cases hdeclared
  rw [referenceCategory, if_pos hstorage] at hcategory
  cases hcategory
  rfl

theorem isIdentifier_of_referenceTarget {text node target : Text}
    (h : Reader.whole referenceTarget text = some (node, target)) :
    Reader.IsIdentifier node ∧ Reader.IsIdentifier target := by
  unfold Reader.whole at h
  split at h
  next hread =>
    cases h
    obtain ⟨_, _, hnode, hread⟩ := Reader.bind_eq_some_iff.mp hread
    obtain ⟨_, _, _, hread⟩ := Reader.bind_eq_some_iff.mp hread
    obtain ⟨_, _, htarget, hread⟩ := Reader.bind_eq_some_iff.mp hread
    cases hread
    exact ⟨(Reader.identifier_eq_some_iff.mp hnode).1, (Reader.identifier_eq_some_iff.mp htarget).1⟩
  next => cases h

theorem Reference.isWellFormed_of_build (h : Reference.build context declaration = .ok resource) :
    resource.HasNaturalSlot ∧ resource.detail.IsWellFormed := by
  obtain ⟨argument, node, target, declared, slot, category, -, htarget, hdeclared, hslot, hcategory,
    rfl⟩ := exists_of_build h
  refine ⟨Context.hasNaturalSlot_resource hslot _ _ _, ?_⟩
  obtain ⟨hnode, hresource⟩ := isIdentifier_of_referenceTarget htarget
  exact ⟨hnode, hresource, category_of_access hdeclared hcategory⟩

/-! ## All kinds -/

theorem Declaration.isWellFormed_of_build
    (h : (declaration.build context).result = .ok resource) :
    resource.HasNaturalSlot ∧ resource.detail.IsWellFormed := by
  unfold Declaration.build at h
  cases hkind : declaration.kind with
  | texture =>
      rw [hkind] at h
      exact Texture.isWellFormed_of_build h
  | buffer =>
      rw [hkind] at h
      exact Buffer.isWellFormed_of_build h
  | uniform =>
      rw [hkind] at h
      obtain ⟨found, uniform, members, defaults, slot, -, -, hslot, rfl⟩ :=
        Uniform.exists_of_build h
      exact ⟨Context.hasNaturalSlot_resource hslot _ _ _, trivial⟩
  | sampler =>
      rw [hkind] at h
      exact Sampler.isWellFormed_of_build h
  | reference =>
      rw [hkind] at h
      exact Reference.isWellFormed_of_build h

end Build

/-! ## Allocation -/

theorem Resource.HasNaturalSlot.assign {taken : List Slot} {resources : List Resource}
    (h : ∀ resource ∈ resources, resource.HasNaturalSlot) :
    ∀ resource ∈ assign taken resources, resource.HasNaturalSlot := by
  induction resources generalizing taken with
  | nil => simp [ShaderMarkup.assign]
  | cons first rest ih =>
      rw [List.forall_mem_cons] at h
      rw [ShaderMarkup.assign]
      split
      next => exact List.forall_mem_cons.mpr ⟨h.1, ih h.2⟩
      next => exact List.forall_mem_cons.mpr ⟨⟨h.1.group, by simp⟩, ih h.2⟩

theorem Resource.HasNaturalSlot.allocate {resources : List Resource}
    (h : ∀ resource ∈ resources, resource.HasNaturalSlot) :
    ∀ resource ∈ (allocate resources).1, resource.HasNaturalSlot := by
  intro resource hresource
  refine HasNaturalSlot.assign (fun first hfirst => h first ?_) resource
    ((sortBy_perm _ _).mem_iff.mp hresource)
  exact (sortBy_perm _ _).mem_iff.mp hfirst

theorem pairwise_slot_allocate (resources : List Resource) :
    (allocate resources).1.Pairwise fun a b =>
      a.group < b.group ∨ a.group = b.group ∧ a.bindingNumber ≤ b.bindingNumber := by
  have htotal (a b : Resource) : a.slot.atMost b.slot = true ∨ b.slot.atMost a.slot = true :=
    Slot.atMost_total _ _
  have htrans (a b c : Resource) (hab : a.slot.atMost b.slot = true)
      (hbc : b.slot.atMost c.slot = true) : a.slot.atMost c.slot = true :=
    Slot.atMost_trans hab hbc
  have hany : (assigned resources).Pairwise fun _ _ => True :=
    List.pairwise_of_forall fun _ _ => trivial
  refine (pairwise_sortBy htotal htrans hany).imp ?_
  intro a b hab
  simp only [Slot.atMost, Bool.or_eq_true, Bool.and_eq_true, decide_eq_true_eq,
    beq_iff_eq] at hab
  exact hab.1

/-! ## Declarations -/

theorem pairwise_index_declarationsFrom (code : Text) (index : Nat) (statements : List Statement) :
    (declarationsFrom code index statements).Pairwise fun a b => a.index < b.index := by
  induction statements generalizing index with
  | nil => exact .nil
  | cons statement rest ih =>
      rw [declarationsFrom]
      split
      · exact ih index
      · refine List.pairwise_cons.mpr ⟨fun later hlater => ?_, ih (index + 1)⟩
        exact (index_of_mem_declarationsFrom hlater).1

theorem distinctIndices_acceptedResources (context : Context) :
    DistinctIndices (acceptedResources context) := by
  have hdeclared : (declarations context.code).Pairwise fun a b => a.index ≠ b.index :=
    (pairwise_index_declarationsFrom _ _ _).imp Nat.ne_of_lt
  have hkinds : (byKind (declarations context.code)).Pairwise fun a b => a.index ≠ b.index :=
    ((byKind_perm _).pairwise_iff Ne.symm).mpr hdeclared
  refine List.pairwise_map.mpr (List.pairwise_filterMap.mpr (hkinds.imp ?_))
  intro a b hne first hfirst second hsecond heq
  rw [Declaration.index_of_accepted? hfirst, Declaration.index_of_accepted? hsecond] at heq
  exact hne (Int.ofNat_inj.mp heq)

/-! ## Whole sources -/

/-- The resources of every source that compiles are well-formed. -/
theorem compile_isWellFormed {source : Text} {environment : Environment} {settings : Settings}
    {shader : Shader} (h : (compile source environment settings).result = .ok shader) :
    shader.IsWellFormed := by
  have hresources := (compile_eq_ok_iff.mp h).resources_eq
  generalize Context.ofCode (stripComments source) environment settings = context at hresources
  have hbuilt : ∀ resource ∈ acceptedResources context,
      resource.HasNaturalSlot ∧ resource.detail.IsWellFormed := by
    intro resource hresource
    obtain ⟨declaration, _, haccepted⟩ := mem_acceptedResources.mp hresource
    obtain ⟨_, hbuild⟩ := Declaration.accepted?_eq_some_iff.mp haccepted
    exact Declaration.isWellFormed_of_build hbuild
  have hperm := allocate_perm (acceptedResources context)
  rw [← hresources] at hperm
  constructor
  case sorted =>
    rw [hresources]
    exact pairwise_slot_allocate _
  case indices =>
    have hindices := hperm.map (·.declarationIndex)
    rw [List.map_map, List.map_map] at hindices
    exact List.pairwise_map.mp (hindices.nodup_iff.mpr (distinctIndices_acceptedResources context))
  case slot =>
    intro resource hresource
    rw [hresources] at hresource
    have hslot := Resource.HasNaturalSlot.allocate (fun first hfirst => (hbuilt first hfirst).1)
      resource hresource
    obtain ⟨binding, hbinding⟩ := exists_binding_of_mem_allocate hresource
    exact ⟨hslot.group, binding, hbinding, hslot.binding binding hbinding⟩
  case detail =>
    intro resource hresource
    obtain ⟨accepted, haccepted, hsame⟩ :=
      List.mem_map.mp (hperm.mem_iff.mp (List.mem_map_of_mem hresource))
    have hdetail : accepted.detail = resource.detail := by
      rw [Resource.eq_of_unbound_eq hsame]
    rw [← hdetail]
    exact (hbuilt accepted haccepted).2

/-- A texture whose size is filled up, a structured buffer, a sampler with both levels of detail and
a reference to storage. -/
def fourDeclarations : Text :=
  "@texture(@size(4) @format(r8)) var t: texture_2d<f32>;\n".toList
    ++ "@buffer(@size(6)) var<storage, read> b: array<structured<3>>;\n".toList
    ++ "@sampler(@minFilter(linear) @lodMinClamp(1) @lodMaxClamp(2)) var s: sampler;\n".toList
    ++ "@ref(n.r) var<storage, read> x: array<f32>;".toList

theorem compile_isWellFormed_fourDeclarations :
    ∃ shader, (compile fourDeclarations [] {}).result = .ok shader ∧
      shader.resources.map (·.kind) = [.texture, .buffer, .sampler, .reference] ∧
      shader.IsWellFormed := by
  have hkinds : (compile fourDeclarations [] {}).result.toOption.map
      (fun shader => shader.resources.map (·.kind))
        = some [.texture, .buffer, .sampler, .reference] := by
    decide +kernel
  obtain ⟨shader, hshader, hmap⟩ := Option.map_eq_some_iff.mp hkinds
  have hcompile := eq_ok_of_toOption hshader
  exact ⟨shader, hcompile, hmap, compile_isWellFormed hcompile⟩

end ShaderMarkup
