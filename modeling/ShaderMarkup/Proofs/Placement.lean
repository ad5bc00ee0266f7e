import ShaderMarkup.Proofs.Allocation
import ShaderMarkup.Proofs.Compilation

/-!
# Declarations at another place

What a declaration contributes depends on its text, and on the wildcards, the settings, the functions
and the structs it is read against.  The rest of the source, the line it stands on and the
declarations around it do not matter, but for its index, which the resource keeps.
-/

namespace ShaderMarkup

variable {context : Context} {declaration : Declaration}

/-- The declaration on another line and with another index. -/
def Declaration.movedTo (line index : Nat) (declaration : Declaration) : Declaration :=
  { declaration with line, index }

/-- The resource of a declaration with another index. -/
def Resource.placedAt (index : Nat) (resource : Resource) : Resource :=
  { resource with declarationIndex := index }

/-! ## Building -/

section Building

variable {ε α β γ : Type}

theorem map_bind (first : Except ε α) (next : α → Except ε β) (change : β → γ) :
    (first >>= next).map change = first >>= fun a => (next a).map change := by
  cases first <;> rfl

end Building

theorem Texture.build_movedTo (line index : Nat) :
    Texture.build context (declaration.movedTo line index)
      = (Texture.build context declaration).map (·.placedAt index) := by
  unfold Texture.build
  simp only [Declaration.movedTo]
  split
  · rfl
  · rfl
  · rfl
  · simp only [map_bind, apply_ite (Except.map _)]
    rfl

theorem Buffer.build_movedTo (line index : Nat) :
    Buffer.build context (declaration.movedTo line index)
      = (Buffer.build context declaration).map (·.placedAt index) := by
  unfold Buffer.build
  simp only [Declaration.movedTo]
  split
  · rfl
  · rfl
  · simp only [map_bind]
    rfl

theorem Sampler.build_movedTo (line index : Nat) :
    Sampler.build context (declaration.movedTo line index)
      = (Sampler.build context declaration).map (·.placedAt index) := by
  unfold Sampler.build
  simp only [Declaration.movedTo]
  split
  · rfl
  · simp only [map_bind]
    rfl

theorem Reference.build_movedTo (line index : Nat) :
    Reference.build context (declaration.movedTo line index)
      = (Reference.build context declaration).map (·.placedAt index) := by
  unfold Reference.build
  simp only [Declaration.movedTo]
  split
  · rfl
  · split
    · rfl
    · simp only [map_bind]
      rfl

theorem Uniform.build_movedTo (line index : Nat) :
    (Uniform.build context (declaration.movedTo line index)).result
      = (Uniform.build context declaration).result.map (·.placedAt index) := by
  unfold Uniform.build
  simp only [Declaration.movedTo]
  split
  · rfl
  · simp only [Journal.result_bind, Journal.result_ofExcept, Journal.result_write, map_bind]
    rfl

/-- The place of a declaration does not matter but for the index. -/
theorem Declaration.build_movedTo (line index : Nat) :
    ((declaration.movedTo line index).build context).result
      = (declaration.build context).result.map (·.placedAt index) := by
  unfold Declaration.build
  have hkind : (declaration.movedTo line index).kind = declaration.kind := rfl
  rw [hkind]
  cases declaration.kind with
  | texture => exact Texture.build_movedTo line index
  | buffer => exact Buffer.build_movedTo line index
  | uniform => exact Uniform.build_movedTo line index
  | sampler => exact Sampler.build_movedTo line index
  | reference => exact Reference.build_movedTo line index

/-! ## The code around a declaration -/

section Code

variable (code : Text)

theorem fieldEntries_code (defaults : Table Text Text) (fields : List (Text × Text)) :
    fieldEntries { context with code } defaults fields = fieldEntries context defaults fields := by
  induction fields with
  | nil => rfl
  | cons field rest ih =>
      rw [fieldEntries, fieldEntries, ih]
      rfl

theorem Sampler.setAll_code (sampler : Sampler) (given : SamplerArguments) :
    Sampler.setAll { context with code } sampler given = Sampler.setAll context sampler given := by
  induction given generalizing sampler with
  | nil => rfl
  | cons argument rest ih =>
      obtain ⟨parameter, expression⟩ := argument
      cases parameter with
      | choice parameter => simp only [Sampler.setAll, ih]
      | range parameter =>
          simp only [Sampler.setAll, ih]
          rfl

/-- The code around a declaration does not matter. -/
theorem Declaration.build_code :
    declaration.build { context with code } = declaration.build context := by
  unfold Declaration.build
  cases declaration.kind with
  | texture => rfl
  | buffer => rfl
  | uniform =>
      simp only [Uniform.build, Uniform.layout, fieldEntries_code]
      rfl
  | sampler =>
      simp only [Sampler.build, Sampler.setAll_code]
      rfl
  | reference => rfl

end Code

theorem Declaration.breaksWith_movedTo_iff {line index : Nat} {code : Text} {cause : Abort} :
    (declaration.movedTo line index).BreaksWith { context with code } cause ↔
      declaration.BreaksWith context cause := by
  refine and_congr_right' ?_
  rw [Declaration.build_code, Declaration.build_movedTo]
  cases (declaration.build context).result <;> simp [Except.map]

theorem Declaration.accepted?_movedTo (line index : Nat) (code : Text) :
    (declaration.movedTo line index).accepted? { context with code }
      = (declaration.accepted? context).map (·.placedAt index) := by
  unfold Declaration.accepted?
  have hissues : (declaration.movedTo line index).issues = declaration.issues := rfl
  rw [hissues, Declaration.build_code, Declaration.build_movedTo]
  split
  · cases (declaration.build context).result <;> rfl
  · rfl

/-- A resource keeps the index of its declaration. -/
theorem Declaration.index_of_accepted? {resource : Resource}
    (h : declaration.accepted? context = some resource) :
    resource.declarationIndex = declaration.index := by
  have hmoved : declaration.accepted? context
      = (declaration.accepted? context).map (·.placedAt declaration.index) :=
    Declaration.accepted?_movedTo declaration.line declaration.index context.code
  have hplaced : resource = resource.placedAt declaration.index := by simpa [h] using hmoved
  rw [hplaced]
  rfl

/-! ## One more declaration -/

/-- The declaration with room for one more in front of it, if its index calls for that. -/
def Declaration.MakesRoom (place : Nat) (declaration moved : Declaration) : Prop :=
  ∃ line, moved = declaration.movedTo line
    (if declaration.index < place then declaration.index else declaration.index + 1)

theorem Declaration.MakesRoom.accepted? {place : Nat} {moved : Declaration}
    (h : declaration.MakesRoom place moved) (code : Text) :
    moved.accepted? { context with code }
      = (declaration.accepted? context).map (·.makeRoom place) := by
  obtain ⟨line, rfl⟩ := h
  rw [Declaration.accepted?_movedTo]
  refine Option.map_congr fun resource hresource => ?_
  have hindex := Declaration.index_of_accepted? hresource
  unfold Resource.placedAt Resource.makeRoom ShaderMarkup.makeRoom
  rw [hindex]
  congr 1
  split <;> split <;> omega

theorem exists_of_mem_of_makesRoom {place : Nat} {declared moved : List Declaration}
    (h : List.Forall₂ (Declaration.MakesRoom place) declared moved) {other : Declaration}
    (hmem : other ∈ moved) : ∃ declaration ∈ declared, declaration.MakesRoom place other := by
  induction h with
  | nil => cases hmem
  | cons hfirst _ ih =>
      rcases List.mem_cons.mp hmem with rfl | hmem
      · exact ⟨_, List.mem_cons_self, hfirst⟩
      · obtain ⟨declaration, hdeclaration, hmoved⟩ := ih hmem
        exact ⟨declaration, List.mem_cons_of_mem _ hdeclaration, hmoved⟩

/-- The resources of declarations that make room, kind by kind. -/
theorem filterMap_byKind_of_makesRoom {place : Nat} {declared moved : List Declaration}
    (h : List.Forall₂ (Declaration.MakesRoom place) declared moved) (code : Text) :
    (byKind moved).filterMap (·.accepted? { context with code })
      = ((byKind declared).filterMap (·.accepted? context)).map (·.makeRoom place) := by
  have hkind : ∀ kind : ResourceKind,
      (moved.filter fun declaration => declaration.kind = kind).filterMap
          (·.accepted? { context with code })
        = ((declared.filter fun declaration => declaration.kind = kind).filterMap
          (·.accepted? context)).map (·.makeRoom place) := by
    intro kind
    induction h with
    | nil => rfl
    | @cons declaration other declared moved hmoved _ ih =>
        have hsame : other.kind = declaration.kind := by
          obtain ⟨line, rfl⟩ := hmoved
          rfl
        rw [List.filter_cons, List.filter_cons, hsame]
        split
        · rw [List.filterMap_cons, List.filterMap_cons, hmoved.accepted? code, ih]
          cases declaration.accepted? context <;> rfl
        · exact ih
  simp only [byKind, List.filterMap_flatMap, List.map_flatMap, hkind]

/-- A declaration that contributes nothing can be left out. -/
theorem filterMap_byKind_middle {before after : List Declaration} {refused : Declaration}
    (h : refused.accepted? context = none) :
    (byKind (before ++ refused :: after)).filterMap (·.accepted? context)
      = (byKind (before ++ after)).filterMap (·.accepted? context) := by
  simp only [byKind, List.filterMap_flatMap, List.filter_append, List.filterMap_append]
  congr 1
  funext kind
  rw [List.filter_cons]
  split
  · rw [List.filterMap_cons_none h]
  · rfl

/-! ## Declarations of statements -/

theorem declarationsFrom_append (code : Text) (index : Nat) (statements others : List Statement) :
    declarationsFrom code index (statements ++ others)
      = declarationsFrom code index statements
        ++ declarationsFrom code (index + (declarationsFrom code index statements).length)
          others := by
  induction statements generalizing index with
  | nil => rfl
  | cons statement rest ih =>
      rw [List.cons_append, declarationsFrom, declarationsFrom]
      split
      · exact ih index
      · rw [ih, List.length_cons, List.cons_append, Nat.add_assoc, Nat.add_comm 1]

theorem index_of_mem_declarationsFrom {code : Text} {index : Nat} {statements : List Statement}
    {declaration : Declaration} (h : declaration ∈ declarationsFrom code index statements) :
    index ≤ declaration.index ∧
      declaration.index < index + (declarationsFrom code index statements).length := by
  induction statements generalizing index with
  | nil => cases h
  | cons statement rest ih =>
      rw [declarationsFrom] at h ⊢
      split at h
      · exact ih h
      · rw [List.length_cons]
        rcases List.mem_cons.mp h with rfl | h
        · exact ⟨Nat.le_refl _, by dsimp only; omega⟩
        · obtain ⟨hlow, hhigh⟩ := ih h
          omega

/-- Statements with the same texts are the same declarations, at other places. -/
theorem declarationsFrom_of_same_texts {statements others : List Statement}
    (h : statements.map (·.text) = others.map (·.text)) (code code' : Text) (index shift : Nat) :
    List.Forall₂ (fun declaration moved => ∃ line,
        moved = declaration.movedTo line (declaration.index + shift))
      (declarationsFrom code index statements) (declarationsFrom code' (index + shift) others) := by
  induction statements generalizing index others with
  | nil =>
      obtain rfl : others = [] := by simpa using h.symm
      exact .nil
  | cons statement rest ih =>
      cases others with
      | nil => cases h
      | cons other others =>
          obtain ⟨htext, hrest⟩ : statement.text = other.text ∧
              rest.map (·.text) = others.map (·.text) := by simpa using h
          rw [declarationsFrom, declarationsFrom, ← htext]
          split
          · exact ih hrest index
          · refine .cons ⟨_, rfl⟩ ?_
            rw [Nat.add_right_comm]
            exact ih hrest (index + 1)

end ShaderMarkup
