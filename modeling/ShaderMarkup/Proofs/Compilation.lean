import ShaderMarkup.Proofs.Outcome
import ShaderMarkup.Shader

/-!
# What a compilation consists of

`compile` is a chain of five stages.  `Compiles` says what each of them gives in a compilation that
succeeds, and `compile_eq_ok_iff` that nothing else is needed.  `compile_eq_error_iff` lists the
ways in which a compilation fails.

The declarations are the one stage that is itself a loop.  `Declaration.accepted?` is what a
declaration contributes, whatever the others do, and `Declaration.BreaksWith` says that reading it
ends the whole compilation.  `resourcesOf_eq_ok_iff` puts the two together: the loop succeeds when
no declaration breaks it, and then its result is what the declarations contribute one by one.

Equality of shaders is decidable, so the shader that comes out of a given source can be found by
running the compilation.
-/

namespace ShaderMarkup

deriving instance DecidableEq for Number, Uniform, Sampler, Detail, Resource, Shader

/-! ## One declaration -/

/-- What a declaration contributes to the resources of its source. -/
def Declaration.accepted? (context : Context) (declaration : Declaration) : Option Resource :=
  if declaration.issues.isEmpty then (declaration.build context).result.toOption else none

/-- The declaration has a sound structure, and reading it ends in an abort. -/
def Declaration.BreaksWith (context : Context) (cause : Abort) (declaration : Declaration) : Prop :=
  declaration.issues = [] ∧ (declaration.build context).result = .error (.abort cause)

theorem Declaration.accepted?_eq_some_iff {context : Context} {declaration : Declaration}
    {resource : Resource} :
    declaration.accepted? context = some resource ↔
      declaration.issues = [] ∧ (declaration.build context).result = .ok resource := by
  unfold Declaration.accepted?
  cases hissues : declaration.issues with
  | cons issue rest => simp
  | nil =>
      cases hbuild : (declaration.build context).result with
      | error fault => simp [Except.toOption]
      | ok built => simp [Except.toOption]

/-- Reading a declaration has a result unless the declaration breaks it, and the result is what the
declaration contributes. -/
theorem Declaration.resource?_eq_ok_iff {context : Context} {declaration : Declaration}
    {outcome : Option Resource} :
    (declaration.resource? context).result = .ok outcome ↔
      (∀ cause, ¬ declaration.BreaksWith context cause) ∧
        outcome = declaration.accepted? context := by
  unfold Declaration.resource? Declaration.BreaksWith Declaration.accepted?
  cases hissues : declaration.issues with
  | cons issue rest => simp [eq_comm]
  | nil =>
      cases hbuild : (declaration.build context).result with
      | ok built => simp [hbuild, Except.toOption, eq_comm]
      | error fault =>
          cases fault with
          | issue report => simp [hbuild, Except.toOption, eq_comm]
          | abort cause => simp [hbuild]

/-- Reading a declaration fails exactly with the causes that the declaration breaks it with. -/
theorem Declaration.resource?_eq_error_iff {context : Context} {declaration : Declaration}
    {cause : Abort} :
    (declaration.resource? context).result = .error cause ↔
      declaration.BreaksWith context cause := by
  unfold Declaration.resource? Declaration.BreaksWith
  cases hissues : declaration.issues with
  | cons issue rest => simp
  | nil =>
      cases hbuild : (declaration.build context).result with
      | ok built => simp [hbuild]
      | error fault => cases fault <;> simp [hbuild]

/-! ## All declarations -/

/-- The loop over declarations succeeds when no declaration breaks it.  Its result is what the
declarations contribute, one by one. -/
theorem resourcesOf_eq_ok_iff {context : Context} {declared : List Declaration}
    {resources : List Resource} :
    (resourcesOf context declared).result = .ok resources ↔
      (∀ declaration ∈ declared, ∀ cause, ¬ declaration.BreaksWith context cause) ∧
        resources = declared.filterMap (·.accepted? context) := by
  induction declared generalizing resources with
  | nil => simp [resourcesOf, eq_comm]
  | cons declaration rest ih =>
      rw [resourcesOf, Journal.result_bind, bind_eq_ok_iff]
      constructor
      · rintro ⟨outcome, houtcome, h⟩
        obtain ⟨hsafe, rfl⟩ := Declaration.resource?_eq_ok_iff.mp houtcome
        rw [Journal.result_bind] at h
        obtain ⟨others, hothers, h⟩ := bind_eq_ok_iff.mp h
        obtain ⟨hrest, rfl⟩ := ih.mp hothers
        rw [Journal.result_pure] at h
        cases h
        refine ⟨?_, ?_⟩
        · simpa using ⟨hsafe, hrest⟩
        · cases haccepted : declaration.accepted? context <;> simp [haccepted]
      · rintro ⟨hsafe, rfl⟩
        have hfirst := hsafe declaration (by simp)
        have hrest := fun other (h : other ∈ rest) => hsafe other (by simp [h])
        refine ⟨_, Declaration.resource?_eq_ok_iff.mpr ⟨hfirst, rfl⟩, ?_⟩
        rw [Journal.result_bind]
        refine bind_eq_ok_iff.mpr ⟨_, ih.mpr ⟨hrest, rfl⟩, ?_⟩
        rw [Journal.result_pure]
        cases haccepted : declaration.accepted? context <;> simp [haccepted]

/-- Declarations that are read without an entry in the log. -/
theorem resourcesOf_eq_of_quiet {context : Context} {declared : List Declaration}
    (h : ∀ declaration ∈ declared, ∃ outcome, declaration.resource? context = ⟨[], .ok outcome⟩) :
    resourcesOf context declared = ⟨[], .ok (declared.filterMap (·.accepted? context))⟩ := by
  induction declared with
  | nil => rfl
  | cons declaration rest ih =>
      rw [List.forall_mem_cons] at h
      obtain ⟨outcome, houtcome⟩ := h.1
      have haccepted : outcome = declaration.accepted? context :=
        (Declaration.resource?_eq_ok_iff.mp (by rw [houtcome])).2
      rw [resourcesOf, houtcome, ih h.2, List.filterMap_cons, ← haccepted]
      cases outcome <;> rfl

/-- The loop over declarations fails at the first declaration that breaks it. -/
theorem resourcesOf_eq_error_iff {context : Context} {declared : List Declaration}
    {cause : Abort} :
    (resourcesOf context declared).result = .error cause ↔
      ∃ before culprit after, declared = before ++ culprit :: after ∧
        (∀ other ∈ before, ∀ cause, ¬ other.BreaksWith context cause) ∧
        culprit.BreaksWith context cause := by
  induction declared with
  | nil => simp [resourcesOf]
  | cons declaration rest ih =>
      rw [resourcesOf, Journal.result_bind, bind_eq_error_iff]
      constructor
      · rintro (h | ⟨outcome, houtcome, h⟩)
        · exact ⟨[], declaration, rest, rfl, by simp, Declaration.resource?_eq_error_iff.mp h⟩
        · obtain ⟨hsafe, _⟩ := Declaration.resource?_eq_ok_iff.mp houtcome
          rw [Journal.result_bind] at h
          rcases bind_eq_error_iff.mp h with h | ⟨_, _, h⟩
          · obtain ⟨before, culprit, after, rfl, hbefore, hculprit⟩ := ih.mp h
            exact ⟨declaration :: before, culprit, after, rfl, by simpa using ⟨hsafe, hbefore⟩,
              hculprit⟩
          · cases h
      · rintro ⟨before, culprit, after, hsplit, hbefore, hculprit⟩
        cases before with
        | nil =>
            cases hsplit
            exact Or.inl (Declaration.resource?_eq_error_iff.mpr hculprit)
        | cons first before =>
            obtain ⟨rfl, rfl⟩ : declaration = first ∧ rest = before ++ culprit :: after := by
              simpa using hsplit
            refine Or.inr ⟨_, Declaration.resource?_eq_ok_iff.mpr
              ⟨hbefore declaration (by simp), rfl⟩, ?_⟩
            rw [Journal.result_bind]
            refine bind_eq_error_iff.mpr (Or.inl (ih.mpr ?_))
            exact ⟨before, culprit, after, rfl,
              fun other hother => hbefore other (by simp [hother]), hculprit⟩

/-- Declarations kind by kind, in source order within a kind. -/
def byKind (declared : List Declaration) : List Declaration :=
  ResourceKind.all.flatMap fun kind => declared.filter fun declaration => declaration.kind = kind

@[simp] theorem mem_byKind {declared : List Declaration} {declaration : Declaration} :
    declaration ∈ byKind declared ↔ declaration ∈ declared := by
  simp only [byKind, List.mem_flatMap, List.mem_filter, decide_eq_true_eq]
  constructor
  · rintro ⟨_, _, h, _⟩
    exact h
  · intro h
    refine ⟨declaration.kind, ?_, h, rfl⟩
    cases declaration.kind <;> simp [ResourceKind.all]

/-- No declaration is lost or doubled. -/
theorem byKind_perm (declared : List Declaration) : (byKind declared).Perm declared := by
  rw [List.perm_iff_count]
  intro declaration
  have hcount : ∀ kind, (declared.filter fun other => other.kind = kind).count declaration
      = if declaration.kind = kind then declared.count declaration else 0 := by
    intro kind
    split
    next hkind => rw [List.count_filter (by simpa using hkind)]
    next hkind => exact List.count_eq_zero.mpr (by simp [hkind])
  simp only [byKind, ResourceKind.all, List.flatMap_cons, List.flatMap_nil, List.append_nil,
    List.count_append, hcount]
  cases declaration.kind <;> simp

/-- The resources that the declarations of a source contribute, before slots are allocated. -/
def acceptedResources (context : Context) : List Resource :=
  (byKind (declarations context.code)).filterMap (·.accepted? context)

theorem mem_acceptedResources {context : Context} {resource : Resource} :
    resource ∈ acceptedResources context ↔
      ∃ declaration ∈ declarations context.code,
        declaration.accepted? context = some resource := by
  simp [acceptedResources]

theorem sourceResources_eq_ok_iff {context : Context} {resources : List Resource} :
    (sourceResources context ResourceKind.all).result = .ok resources ↔
      (∀ declaration ∈ declarations context.code, ∀ cause,
          ¬ declaration.BreaksWith context cause) ∧
        resources = acceptedResources context := by
  refine resourcesOf_eq_ok_iff.trans ?_
  exact and_congr_left' (forall_congr' fun declaration => imp_congr_left mem_byKind)

/-- The declarations of a source cannot all be read when one of them breaks the reading. -/
theorem exists_breaksWith_of_sourceResources {context : Context} {cause : Abort}
    (h : (sourceResources context ResourceKind.all).result = .error cause) :
    ∃ declaration ∈ declarations context.code, declaration.BreaksWith context cause := by
  obtain ⟨before, culprit, after, hsplit, _, hculprit⟩ := resourcesOf_eq_error_iff.mp h
  refine ⟨culprit, mem_byKind.mp ?_, hculprit⟩
  unfold byKind
  rw [hsplit]
  simp

/-! ## The whole source -/

/-- The stages of a compilation that succeeds. -/
structure Compiles (source : Text) (environment : Environment) (settings : Settings)
    (shader : Shader) : Prop where
  kind_eq : shaderKind (stripComments source) = .ok shader.kind
  readable : ∀ declaration ∈ declarations (stripComments source), ∀ cause,
    ¬ declaration.BreaksWith (.ofCode (stripComments source) environment settings) cause
  resources_eq : shader.resources
    = (allocate (acceptedResources (.ofCode (stripComments source) environment settings))).1
  collisions_eq : shader.collisions
    = (allocate (acceptedResources (.ofCode (stripComments source) environment settings))).2
  entry_eq : entryPoint (.ofCode (stripComments source) environment settings) shader.resources
    shader.kind = .ok shader.entry
  code_eq : emit (stripComments source) shader.resources shader.kind shader.entry = .ok shader.code

/-- Logging the issue that ends a compilation does not change how it ends. -/
theorem result_compile (source : Text) (environment : Environment) (settings : Settings) :
    (compile source environment settings).result
      = (compileSource source environment settings).result := by
  unfold compile
  dsimp only
  split
  next heq => exact heq.symm ▸ rfl
  next => rfl

/-- The result of a compilation as a chain of its stages. -/
theorem compileSource_result (source : Text) (environment : Environment) (settings : Settings) :
    (compileSource source environment settings).result = (do
      let code := stripComments source
      let context := Context.ofCode code environment settings
      let kind ← shaderKind code
      let declared ← (sourceResources context ResourceKind.all).result.mapError Fault.abort
      let entry ← entryPoint context (allocate declared).1 kind
      let plain ← emit code (allocate declared).1 kind entry
      pure { kind, entry, resources := (allocate declared).1, code := plain,
             collisions := (allocate declared).2 }) := by
  unfold compileSource
  simp only [Journal.result_bind, Journal.result_ofExcept, Journal.result_write,
    Journal.result_pure, Journal.withFaults, bind_ok, pure_eq_ok]

theorem mapError_eq_ok_iff {ε δ α : Type} {change : ε → δ} {result : Except ε α} {value : α} :
    result.mapError change = .ok value ↔ result = .ok value := by
  cases result <;> simp [Except.mapError]

theorem mapError_eq_error_iff {ε δ α : Type} {change : ε → δ} {result : Except ε α}
    {failure : δ} :
    result.mapError change = .error failure ↔ ∃ cause, result = .error cause ∧
      change cause = failure := by
  cases result <;> simp [Except.mapError]

/-- A compilation succeeds when all its stages do. -/
theorem compile_eq_ok_iff {source : Text} {environment : Environment} {settings : Settings}
    {shader : Shader} :
    (compile source environment settings).result = .ok shader ↔
      Compiles source environment settings shader := by
  rw [result_compile, compileSource_result]
  dsimp only
  constructor
  · intro h
    obtain ⟨kind, hkind, h⟩ := bind_eq_ok_iff.mp h
    obtain ⟨declared, hdeclared, h⟩ := bind_eq_ok_iff.mp h
    obtain ⟨entry, hentry, h⟩ := bind_eq_ok_iff.mp h
    obtain ⟨plain, hplain, h⟩ := bind_eq_ok_iff.mp h
    obtain ⟨hreadable, rfl⟩ := sourceResources_eq_ok_iff.mp (mapError_eq_ok_iff.mp hdeclared)
    cases h
    exact ⟨hkind, hreadable, rfl, rfl, hentry, hplain⟩
  · rintro ⟨hkind, hreadable, hresources, hcollisions, hentry, hcode⟩
    refine bind_eq_ok_iff.mpr ⟨_, hkind, ?_⟩
    refine bind_eq_ok_iff.mpr ⟨_, mapError_eq_ok_iff.mpr
      (sourceResources_eq_ok_iff.mpr ⟨hreadable, rfl⟩), ?_⟩
    rw [← hresources, ← hcollisions]
    refine bind_eq_ok_iff.mpr ⟨_, hentry, ?_⟩
    exact bind_eq_ok_iff.mpr ⟨_, hcode, rfl⟩

/-- A compilation whose stages succeed, with its log: what the declarations write, then the
collisions. -/
theorem compile_eq_of_stages {source : Text} {environment : Environment} {settings : Settings}
    {kind : ShaderKind} {entries : List LogEntry} {declared : List Resource}
    {entry : Option EntryPoint} {plain : Text}
    (hkind : shaderKind (stripComments source) = .ok kind)
    (hdeclared : sourceResources (.ofCode (stripComments source) environment settings)
      ResourceKind.all = ⟨entries, .ok declared⟩)
    (hentry : entryPoint (.ofCode (stripComments source) environment settings)
      (allocate declared).1 kind = .ok entry)
    (hplain : emit (stripComments source) (allocate declared).1 kind entry = .ok plain) :
    compile source environment settings
      = ⟨entries ++ (allocate declared).2.map Collision.entry,
          .ok { kind, entry, resources := (allocate declared).1, code := plain,
                collisions := (allocate declared).2 }⟩ := by
  have hsource : compileSource source environment settings
      = ⟨entries ++ (allocate declared).2.map Collision.entry,
          .ok { kind, entry, resources := (allocate declared).1, code := plain,
                collisions := (allocate declared).2 }⟩ := by
    unfold compileSource
    dsimp only
    rw [hkind, hdeclared, Journal.ofExcept_ok_bind, Journal.withFaults, Except.mapError,
      Journal.mk_ok_bind, Journal.write, Journal.mk_ok_bind, hentry, Journal.ofExcept_ok_bind,
      hplain, Journal.ofExcept_ok_bind]
    show Journal.mk (entries ++ (_ ++ [])) _ = _
    rw [List.append_nil]
    rfl
  rw [compile, hsource]

/-- The ways in which a compilation fails: the kind of the shader is refused, a declaration breaks
the reading, the entry point is refused or breaks it, or the code cannot be emitted. -/
theorem compile_eq_error_iff {source : Text} {environment : Environment} {settings : Settings}
    {fault : Fault} :
    (compile source environment settings).result = .error fault ↔
      shaderKind (stripComments source) = .error fault ∨
      ∃ kind, shaderKind (stripComments source) = .ok kind ∧
        ((∃ cause, fault = .abort cause ∧
          (sourceResources (.ofCode (stripComments source) environment settings)
            ResourceKind.all).result = .error cause) ∨
        ∃ declared,
          (sourceResources (.ofCode (stripComments source) environment settings)
            ResourceKind.all).result = .ok declared ∧
          (entryPoint (.ofCode (stripComments source) environment settings)
              (allocate declared).1 kind = .error fault ∨
            ∃ entry,
              entryPoint (.ofCode (stripComments source) environment settings)
                (allocate declared).1 kind = .ok entry ∧
              emit (stripComments source) (allocate declared).1 kind entry = .error fault)) := by
  rw [result_compile, compileSource_result]
  dsimp only
  rw [bind_eq_error_iff]
  refine or_congr_right (exists_congr fun kind => and_congr_right fun _ => ?_)
  rw [bind_eq_error_iff, mapError_eq_error_iff]
  refine or_congr ⟨?_, ?_⟩ (exists_congr fun declared => ?_)
  · rintro ⟨cause, hcause, rfl⟩
    exact ⟨cause, rfl, hcause⟩
  · rintro ⟨cause, rfl, hcause⟩
    exact ⟨cause, hcause, rfl⟩
  · rw [mapError_eq_ok_iff]
    refine and_congr_right fun _ => ?_
    rw [bind_eq_error_iff]
    refine or_congr_right (exists_congr fun entry => and_congr_right fun _ => ?_)
    rw [bind_eq_error_iff]
    constructor
    · rintro (h | ⟨_, _, h⟩)
      · exact h
      · cases h
    · exact Or.inl

end ShaderMarkup
