import ShaderMarkup.Proofs.Comment
import ShaderMarkup.Proofs.Entry

/-!
# A declaration that is never closed stays alone

A source is cut in two where a line starts and nothing is open.  A line is put in between that
starts a declaration and never closes the bracket behind its decorator.  If the source compiles
without the line, it compiles with it, and the result is the same but for the indices of the
declarations behind the line (`unclosed_declaration_isolated`).

The stages are those of `Compiles`: the entry points are read alike (`sameEntries_insert`), the
declarations make room for the one that is refused (`acceptedResources_insert`), the slots do not
move (`allocate_makeRoom`), and the line leaves no trace in the code (`emit_insert`).  What is left
for this module are comments: a line cannot make one out of two halves.

Two of the hypotheses are about the source with the line in it and about the settings: that there is
no comment, and that the marker of wildcards ends no statement.  The first holds when no comment is
opened in any of the three parts (`not_occurs_comment_of_parts`), the second holds of the default
settings (`endsStatement_defaultMarker`).
-/

namespace ShaderMarkup

/-! ## Comments -/

/-- Two characters other than a line end stand on one line. -/
theorem exists_of_append_newline_eq_cons_cons {left right rest : Text} {c d : Char} (hc : c ≠ '\n')
    (hd : d ≠ '\n') (h : left ++ '\n' :: right = c :: d :: rest) :
    ∃ tail, left = c :: d :: tail ∧ rest = tail ++ '\n' :: right := by
  rcases left with _ | ⟨a, _ | ⟨b, tail⟩⟩
  · cases h
    exact absurd rfl hc
  · cases h
    exact absurd rfl hd
  · cases h
    exact ⟨tail, rfl, rfl⟩

/-- Lines that are put behind a line end take no part of a comment away. -/
theorem comment_isSome_of_insert {left right : Text} (middle : Text)
    (h : (comment (left ++ '\n' :: right)).isSome) :
    (comment (left ++ '\n' :: (middle ++ '\n' :: right))).isSome := by
  rw [comment_isSome_iff] at h ⊢
  rcases h with ⟨rest, heq⟩ | ⟨rest, heq, hwithin⟩
  · obtain ⟨tail, rfl, _⟩ :=
      exists_of_append_newline_eq_cons_cons (by decide) (by decide) heq.symm
    exact Or.inl ⟨tail ++ '\n' :: (middle ++ '\n' :: right), rfl⟩
  · obtain ⟨tail, rfl, rfl⟩ := exists_of_append_newline_eq_cons_cons (by decide) (by decide) heq
    refine Or.inr ⟨tail ++ '\n' :: (middle ++ '\n' :: right), rfl, ?_⟩
    rcases infix_or_infix_of_not_mem hwithin (by decide) with hwithin | hwithin
    · exact List.infix_append_of_infix_left hwithin
    · exact hwithin.trans ⟨tail ++ '\n' :: (middle ++ ['\n']), [], by simp⟩

/-- Leaving lines out makes no comment. -/
theorem not_occurs_comment_of_insert {front middle right : Text}
    (hline : front = [] ∨ front.getLast? = some '\n')
    (h : occurs (anywhere comment) (front ++ (middle ++ '\n' :: right)) = false) :
    occurs (anywhere comment) (front ++ right) = false := by
  rw [not_occurs_anywhere_iff] at h ⊢
  -- A comment that starts behind the front is there with the lines as well.
  have hright : ∀ gap back, right = gap ++ back → comment back = none := by
    rintro gap back rfl
    exact h (front ++ (middle ++ '\n' :: gap)) back (by simp)
  rcases hline with rfl | hlast
  · exact hright
  · obtain ⟨left, rfl⟩ := List.getLast?_eq_some_iff.mp hlast
    intro outer back hsplit
    rw [List.append_assoc, List.singleton_append] at hsplit
    rcases List.append_eq_append_iff.mp hsplit with ⟨gap, rfl, hback⟩ | ⟨gap, rfl, rfl⟩
    · cases gap with
      | nil =>
          obtain rfl : '\n' :: right = back := hback
          rfl
      | cons c gap =>
          obtain ⟨rfl, hgap⟩ : '\n' = c ∧ right = gap ++ back := by simpa using hback
          exact hright gap back hgap
    · by_contra hsome
      have hinserted := comment_isSome_of_insert middle (Option.isSome_iff_ne_none.mpr hsome)
      rw [h outer (gap ++ '\n' :: (middle ++ '\n' :: right)) (by simp)] at hinserted
      cases hinserted

/-- No comment is opened in the text. -/
structure OpensNoComment (text : Text) : Prop where
  no_line : ¬ ['/', '/'] <:+: text
  no_block : ¬ ['/', '*'] <:+: text

namespace OpensNoComment

variable {left right text : Text}

theorem of_append (h : OpensNoComment (left ++ right)) : OpensNoComment left where
  no_line hmem := h.no_line (hmem.trans List.infix_append_left)
  no_block hmem := h.no_block (hmem.trans List.infix_append_left)

/-- A comment is not opened across the end of a line. -/
theorem append_newline (hleft : OpensNoComment left) (hright : OpensNoComment right) :
    OpensNoComment (left ++ '\n' :: right) where
  no_line hmem := (infix_or_infix_of_not_mem hmem (by decide)).elim hleft.no_line hright.no_line
  no_block hmem := (infix_or_infix_of_not_mem hmem (by decide)).elim hleft.no_block hright.no_block

theorem not_occurs (h : OpensNoComment text) : occurs (anywhere comment) text = false := by
  refine isCommentFree_iff.mp ⟨h.no_line, ?_⟩
  rintro ⟨before, middle, behind, rfl⟩
  exact h.no_block ⟨before, middle ++ '*' :: '/' :: behind, by simp⟩

end OpensNoComment

/-- A source has no comment if none is opened in the parts that it is put together from. -/
theorem not_occurs_comment_of_parts {front line back : Text}
    (hline : front = [] ∨ front.getLast? = some '\n') (hfront : OpensNoComment front)
    (hmiddle : OpensNoComment line) (hback : OpensNoComment back) :
    occurs (anywhere comment) (front ++ (line ++ '\n' :: back)) = false := by
  have hlines := hmiddle.append_newline hback
  rcases hline with rfl | hlast
  · exact hlines.not_occurs
  · obtain ⟨above, rfl⟩ := List.getLast?_eq_some_iff.mp hlast
    have hsource := hfront.of_append.append_newline hlines
    rw [List.append_assoc, List.singleton_append]
    exact hsource.not_occurs

/-! ## The whole source -/

/-- The marker that the settings have by default ends no statement. -/
theorem endsStatement_defaultMarker : ∀ c ∈ ({} : Settings).marker, endsStatement c = false := by
  decide

theorem slotNamed?_makeRoom (place : Nat) (resources : List Resource) :
    slotNamed? (resources.map (·.makeRoom place)) = slotNamed? resources := by
  funext name
  have hchosen : (fun resource : Resource => decide (resource.name = name)) ∘ Resource.makeRoom place
      = fun resource : Resource => decide (resource.name = name) := rfl
  unfold slotNamed?
  rw [← List.map_reverse, List.find?_map, hchosen, Option.map_map]
  rfl

theorem Compiles.insert {text gap line back : Text} {environment : Environment}
    {settings : Settings} {shader : Shader} (hfront : Front text gap) (hline : IsUnclosed line)
    (hmarker : ∀ c ∈ settings.marker, endsStatement c = false)
    (hfree : stripComments (text ++ gap ++ back) = text ++ gap ++ back)
    (hfree' : stripComments (text ++ gap ++ (line ++ '\n' :: back))
      = text ++ gap ++ (line ++ '\n' :: back))
    (h : Compiles (text ++ gap ++ back) environment settings shader) :
    Compiles (text ++ gap ++ (line ++ '\n' :: back)) environment settings
      { shader with
        resources := shader.resources.map (·.makeRoom (declarations (text ++ gap)).length) } := by
  obtain ⟨hkind, hreadable, hresources, hcollisions, hentry, hcode⟩ := h
  rw [hfree] at hkind hreadable hresources hcollisions hentry hcode
  have hsame := sameEntries_insert hfront hline back
  have hallocate := allocate_makeRoom (declarations (text ++ gap)).length
    (acceptedResources (.ofCode (text ++ gap ++ back) environment settings))
  rw [← acceptedResources_insert hfront hline, ← hresources, ← hcollisions] at hallocate
  constructor
  · rw [hfree']
    exact hsame.shaderKind hkind
  · rw [hfree']
    exact not_breaksWith_insert hfront hline back environment settings hreadable
  · rw [hfree', hallocate]
  · rw [hfree', hallocate]
  · rw [hfree', ofCode_insert hfront hline]
    exact hsame.entryPoint rfl hmarker hentry _
  · rw [hfree']
    have hemit := emit_insert hfront hline hcode
    unfold emit at hemit ⊢
    rwa [slotNamed?_makeRoom]

/-- Let a source without comments be cut in two, where the first half is empty or ends with a line
behind a complete statement, its braces are balanced and it closes every function it contains.  Put
a line in between that starts a declaration, never closes the bracket of its decorator, and ends
with its only semicolon.  If the source compiles without the line, it compiles with it: to the same
kind, entry point, code and collisions, and to the same resources, where those declared behind the
line have an index that is one higher.

Parts in which no comment is opened give `hcomments` (`not_occurs_comment_of_parts`), and the
default settings give `hmarker` (`endsStatement_defaultMarker`). -/
theorem unclosed_declaration_isolated {front line back : Text} {environment : Environment}
    {settings : Settings} {shader : Shader}
    (hcomments : occurs (anywhere comment) (front ++ (line ++ '\n' :: back)) = false)
    (hline : front = [] ∨ front.getLast? = some '\n')
    (hwhole : IsWhole (Text.trimRight front)) (hfunctions : ClosesFunctions front)
    (hunclosed : IsUnclosed line) (hmarker : ∀ c ∈ settings.marker, endsStatement c = false)
    (hcompiles : (compile (front ++ back) environment settings).result = .ok shader) :
    (compile (front ++ (line ++ '\n' :: back)) environment settings).result
      = .ok { shader with
          resources := shader.resources.map (·.makeRoom (declarations front).length) } := by
  have hfree := stripComments_of_not_occurs (not_occurs_comment_of_insert hline hcomments)
  have hfree' := stripComments_of_not_occurs hcomments
  obtain ⟨gap, hsplit, hfront⟩ := exists_front hline hwhole hfunctions
  generalize Text.trimRight front = text at hsplit hfront
  subst hsplit
  exact compile_eq_ok_iff.mpr
    ((compile_eq_ok_iff.mp hcompiles).insert hfront hunclosed hmarker hfree hfree')

/-- A line in front of an unclosed declaration. -/
def helperLine : Text :=
  "fn f() \x7b\x7d\n".toList

/-- A sampler whose bracket is never closed. -/
def unclosedSampler : Text :=
  "@sampler(@magFilter(linear) var s: sampler;".toList

/-- Lines behind an unclosed declaration: a sampler and a compute entry point. -/
def mainLines : Text :=
  "@sampler var b: sampler;\n@compute(4) fn main() \x7b b; \x7d".toList

/-- What the lines compile to, where the sampler has the given index. -/
def linesShader (index : Int) : Shader where
  kind := .compute
  entry := some (.compute ⟨1, ⟨64, 1, 1⟩, ⟨4, 1, 1⟩⟩)
  resources := [
    { name := "b".toList, binding := some 0, declarationIndex := index, usedInBody := true,
      detail := .sampler {} }]
  code := "fn f() \x7b\x7d\n@group(0) @binding(0) var b: sampler;\n".toList
    ++ "@compute @workgroup_size(64, 1, 1) fn main() \x7b b; \x7d".toList

theorem compile_lines : (compile (helperLine ++ mainLines) [] {}).result = .ok (linesShader 0) :=
  eq_ok_of_toOption (by decide +kernel)

theorem isUnclosed_unclosedSampler : IsUnclosed unclosedSampler where
  unclosed := ⟨.sampler, "@magFilter(linear) var s: sampler;".toList, by decide, by decide⟩
  no_brace := by decide
  one_stop := ⟨"@sampler(@magFilter(linear) var s: sampler".toList, by decide, by decide⟩
  no_function := by decide +kernel
  no_entry := by decide +kernel

theorem not_occurs_comment_unclosedSampler :
    occurs (anywhere comment) (helperLine ++ (unclosedSampler ++ '\n' :: mainLines)) = false :=
  not_occurs_comment_of_parts (by decide) ⟨by decide, by decide⟩ ⟨by decide, by decide⟩
    ⟨by decide, by decide⟩

theorem unclosed_declaration_isolated_sampler :
    (compile (helperLine ++ mainLines) [] {}).result = .ok (linesShader 0) ∧
      (compile (helperLine ++ (unclosedSampler ++ '\n' :: mainLines)) [] {}).result
        = .ok (linesShader 1) :=
  ⟨compile_lines, unclosed_declaration_isolated not_occurs_comment_unclosedSampler (by decide)
    ⟨by decide, by decide⟩ (by decide +kernel) isUnclosed_unclosedSampler
    endsStatement_defaultMarker compile_lines⟩

end ShaderMarkup
