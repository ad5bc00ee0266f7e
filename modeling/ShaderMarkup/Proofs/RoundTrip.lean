import ShaderMarkup.Proofs.Binding
import ShaderMarkup.Proofs.Compilation
import ShaderMarkup.Proofs.Lines
import ShaderMarkup.Proofs.Rank
import ShaderMarkup.Proofs.Realization

/-!
# Specified declarations, compiled

Specifications that are printed one on a line compile to the resources that they specify, with the
slots of the allocation, and to the lines of their variables with these slots in front
(`compile_printed`).

Each stage of the compilation is followed through the printed text: its kind (`shaderKind_printed`),
its declarations (`sourceResources_printed`) and its plain form (`emit_printed`).
-/

namespace ShaderMarkup

/-! ## The characters of a line -/

/-- The characters of a line in front of its semicolon. -/
def isLineChar (c : Char) : Bool :=
  isSimple c || c == '@' || c == '(' || c == ')' || c == ':' || c == '<' || c == '>'

theorem isLineChar_of_isSimple {c : Char} (h : isSimple c = true) : isLineChar c = true := by
  simp [isLineChar, h]

theorem Shape.isLineChar_markup (shape : Shape) : ∀ c ∈ shape.markup, isLineChar c = true := by
  have hnumber : ∀ n, ∀ c ∈ Text.ofNat n, isLineChar c = true :=
    fun n c hc => isLineChar_of_isSimple (isSimple_of_mem_ofNat hc)
  have hname : ∀ name : Identifier, ∀ c ∈ name.text, isLineChar c = true :=
    fun name c hc => isLineChar_of_isSimple (name.isSimple hc)
  cases shape with
  | sampler => exact (by decide : ∀ c ∈ "@sampler".toList, isLineChar c = true)
  | texture width height format =>
      have hformat : ∀ c ∈ format.text, isLineChar c = true :=
        fun c hc => isLineChar_of_isSimple (format.isSimple hc)
      unfold markup
      simp only [List.forall_mem_append]
      exact ⟨⟨⟨⟨⟨⟨by decide, hnumber _⟩, by decide⟩, hnumber _⟩, by decide⟩, hformat⟩, by decide⟩
  | buffer count access =>
      unfold markup
      simp only [List.forall_mem_append]
      exact ⟨⟨by decide, hnumber _⟩, by decide⟩
  | reference node target =>
      unfold markup
      simp only [List.forall_mem_append]
      exact ⟨⟨⟨⟨by decide, hname node⟩, by decide⟩, hname target⟩, by decide⟩

namespace Specification

variable (spec : Specification)

/-- The variable without its semicolon. -/
theorem exists_variableText_eq :
    ∃ body, spec.variableText = body ++ [';'] ∧ ∀ c ∈ body, isLineChar c = true := by
  have hkeywords : ∀ keyword ∈ Shape.keywords, ∀ c ∈ keyword.toList, isLineChar c = true := by
    decide
  have htypes : ∀ type ∈ Shape.types, ∀ c ∈ type.toList, isLineChar c = true := by decide
  have hname : ∀ c ∈ spec.name.text, isLineChar c = true :=
    fun c hc => isLineChar_of_isSimple (spec.name.isSimple hc)
  refine ⟨_, rfl, ?_⟩
  simp only [List.forall_mem_append]
  exact ⟨⟨⟨⟨hkeywords _ spec.shape.keyword_mem, by decide⟩, hname⟩, by decide⟩,
    htypes _ spec.shape.type_mem⟩

/-- The line without its semicolon. -/
theorem exists_line_eq :
    ∃ body, spec.line = body ++ [';'] ∧ ∀ c ∈ body, isLineChar c = true := by
  have hslot : ∀ (mark : String), (∀ c ∈ mark.toList, isLineChar c = true) →
      ∀ number : Option (Fin (2 ^ 53)), ∀ c ∈ number.elim []
        (fun n => mark.toList ++ Text.ofNat n.val ++ ") ".toList), isLineChar c = true := by
    intro mark hmark number
    cases number with
    | none => simp
    | some n =>
        simp only [Option.elim_some, List.forall_mem_append]
        exact ⟨⟨hmark, fun c hc => isLineChar_of_isSimple (isSimple_of_mem_ofNat hc)⟩, by decide⟩
  obtain ⟨body, hbody, hchars⟩ := spec.exists_variableText_eq
  rw [line, hbody, ← List.append_assoc]
  refine ⟨_, rfl, ?_⟩
  simp only [List.forall_mem_append]
  exact ⟨⟨⟨⟨hslot "@group(" (by decide) spec.group, hslot "@binding(" (by decide) spec.binding⟩,
    spec.shape.isLineChar_markup⟩, by decide⟩, hchars⟩

theorem exists_line_eq_cons : ∃ rest, spec.line = '@' :: rest := by
  rw [line_eq, marks]
  cases spec.slotMarks <;> exact ⟨_, rfl⟩

theorem isStatementLine_line : IsStatementLine spec.line := by
  obtain ⟨body, hline, hbody⟩ := spec.exists_line_eq
  obtain ⟨rest, hstart⟩ := spec.exists_line_eq_cons
  refine ⟨⟨body, hline, fun c hc => ?_⟩, ?_⟩
  · have hne : ∀ d, isLineChar d = false → c ≠ d := by
      rintro d hd rfl
      rw [hbody c hc] at hd
      cases hd
    exact ⟨hne _ (by decide), hne _ (by decide), hne _ (by decide)⟩
  · have hleft : Text.trimLeft spec.line = spec.line := by
      rw [hstart]
      rfl
    rw [Text.trim, hleft, hline]
    exact trimRight_append_cons body (by decide) []

variable {spec} in
/-- Only the characters of a line and its semicolon occur in it. -/
theorem not_mem_line {c : Char} (hc : isLineChar c = false) (hstop : c ≠ ';') : c ∉ spec.line := by
  obtain ⟨body, hline, hbody⟩ := spec.exists_line_eq
  rw [hline, List.mem_append, List.mem_singleton, not_or]
  refine ⟨fun hmem => ?_, hstop⟩
  rw [hbody c hmem] at hc
  cases hc

end Specification

theorem Specification.name_mem_of_mem_found {spec : Specification} {decorator : Decorator}
    (h : decorator ∈ spec.found) :
    decorator.name ∈ (slotNames ++ Shape.names).map String.toList := by
  rw [List.map_append, List.mem_append]
  rcases List.mem_append.mp h with h | h
  · obtain ⟨name, n, rfl, hname⟩ := exists_filled_of_mem_slotMarks h
    exact Or.inl (List.mem_map_of_mem hname)
  · exact Or.inr (Shape.name_mem h)

/-! ## Printed specifications -/

/-- The specifications, each on a line of its own, and empty lines behind them. -/
def printed (specs : List Specification) (trailing : Nat) : Text :=
  Text.unlines (specs.map Specification.line ++ List.replicate trailing [])

section Printed

variable (specs : List Specification) (trailing : Nat)

theorem isStatementLine_printed :
    ∀ row ∈ specs.map Specification.line ++ List.replicate trailing [],
      row = [] ∨ IsStatementLine row := by
  intro row hrow
  rcases List.mem_append.mp hrow with hrow | hrow
  · obtain ⟨spec, -, rfl⟩ := List.mem_map.mp hrow
    exact Or.inr spec.isStatementLine_line
  · exact Or.inl (List.eq_of_mem_replicate hrow)

theorem not_mem_printed {c : Char} (hc : isLineChar c = false) (hstop : c ≠ ';') (hend : c ≠ '\n') :
    c ∉ printed specs trailing := by
  intro hmem
  rcases mem_unlines hmem with h | ⟨row, hrow, hmem⟩
  · exact hend h
  · rcases List.mem_append.mp hrow with hrow | hrow
    · obtain ⟨spec, -, rfl⟩ := List.mem_map.mp hrow
      exact Specification.not_mem_line hc hstop hmem
    · rw [List.eq_of_mem_replicate hrow] at hmem
      cases hmem

theorem stripComments_printed : stripComments (printed specs trailing) = printed specs trailing :=
  stripComments_free (not_mem_printed specs trailing (by decide) (by decide) (by decide))

theorem entryCall?_printed {name : String} (hname : name ∈ ["compute", "fragment"]) :
    entryCall? (printed specs trailing) name = none := by
  have hidentifiers : ∀ name ∈ ["compute", "fragment"], Reader.IsIdentifier name.toList := by decide
  have hdiffer : ∀ name ∈ ["compute", "fragment"],
      name.toList ∉ (slotNames ++ Shape.names).map String.toList := by decide
  have hnone : name.toList ∉ markNames (printed specs trailing) := by
    rw [printed, markNames_unlines, List.mem_flatMap]
    rintro ⟨row, hrow, hword⟩
    rcases List.mem_append.mp hrow with hrow | hrow
    · obtain ⟨spec, -, rfl⟩ := List.mem_map.mp hrow
      rw [spec.markNames_line, List.mem_map] at hword
      obtain ⟨decorator, hmem, heq⟩ := hword
      exact hdiffer name hname (heq ▸ Specification.name_mem_of_mem_found hmem)
    · rw [List.eq_of_mem_replicate hrow] at hword
      cases hword
  have hcall : (entryCall? (printed specs trailing) name).map (·.value) = _ :=
    map_value_entryCall? (hidentifiers name hname)
  rw [markedFrom?_eq_none (hidentifiers name hname).isWord hnone, Option.bind_none] at hcall
  exact Option.map_eq_none_iff.mp hcall

theorem shaderKind_printed : shaderKind (printed specs trailing) = .ok .resource := by
  rw [shaderKind, entryCall?_printed specs trailing (by decide : "compute" ∈ _),
    entryCall?_printed specs trailing (by decide : "fragment" ∈ _)]

/-! ## Declarations -/

theorem creatorKinds_line (spec : Specification) : creatorKinds spec.line = [spec.shape.kind] := by
  have hnames : ∀ name ∈ slotNames, ResourceKind.ofDecorator? name.toList = none := by
    decide
  have hslots : spec.slotMarks.filterMap (fun decorator => ResourceKind.ofDecorator? decorator.name)
      = [] := by
    refine List.filterMap_eq_nil_iff.mpr fun decorator hmem => ?_
    obtain ⟨name, n, rfl, hname⟩ := Specification.exists_filled_of_mem_slotMarks hmem
    exact hnames name hname
  have hcreator : ResourceKind.ofDecorator? spec.shape.creator.name = some spec.shape.kind := by
    show ResourceKind.ofDecorator? spec.shape.kind.decoratorName = _
    cases spec.shape.kind <;> rfl
  have hcalls : creatorKinds spec.line = ((calls spec.line).map (·.value)).filterMap
      (fun decorator => ResourceKind.ofDecorator? decorator.name) := by
    rw [List.filterMap_map]
    rfl
  rw [hcalls, spec.map_value_calls_line, List.filterMap_append, hslots, List.nil_append,
    List.filterMap_cons, hcreator, List.filterMap_nil]

theorem map_text_statements_printed :
    (statements (printed specs trailing)).map (·.text) = specs.map Specification.line := by
  have hlines : (specs.map Specification.line).filter (!·.isEmpty)
      = specs.map Specification.line := by
    refine List.filter_eq_self.mpr fun row hrow => ?_
    obtain ⟨spec, -, rfl⟩ := List.mem_map.mp hrow
    obtain ⟨rest, hrest⟩ := spec.exists_line_eq_cons
    rw [hrest]
    rfl
  have hempty : (List.replicate trailing ([] : Text)).filter (!·.isEmpty) = [] :=
    List.filter_replicate_of_neg (by decide)
  rw [statements, map_text_statementsFrom, printed,
    chunkTexts_unlines (isStatementLine_printed specs trailing), List.filter_append, hlines, hempty,
    List.append_nil]

variable {specs}

/-- Each line makes its declaration. -/
theorem forall₂_declarationsFrom (code : Text) {found : List Statement}
    (h : found.map (·.text) = specs.map Specification.line) (index : Nat) :
    List.Forall₂ (fun entry declaration => ∃ line, declaration = entry.1.declaration line entry.2)
      (specs.zipIdx index) (declarationsFrom code index found) := by
  induction specs generalizing found index with
  | nil =>
      rw [List.map_nil, List.map_eq_nil_iff] at h
      rw [h]
      exact .nil
  | cons spec specs ih =>
      obtain ⟨statement, others, rfl, htext, hothers⟩ := List.map_eq_cons_iff.mp h
      rw [List.zipIdx_cons, declarationsFrom, htext, creatorKinds_line]
      exact .cons ⟨_, rfl⟩ (ih hothers (index + 1))

section Context

variable {context : Context} (hfunctions : context.functions = [])
  (hmarker : '\n' ∉ context.settings.marker ∧ '\x00' ∉ context.settings.marker)

include hfunctions hmarker

theorem accepted?_declaration (spec : Specification) (line index : Nat) :
    (spec.declaration line index).accepted? context = some (spec.resource index) := by
  rw [Declaration.accepted?_eq_some_iff]
  exact ⟨Specification.issues_eq_nil line index spec,
    by rw [Specification.build_eq hfunctions hmarker line index spec]⟩

/-- The declarations yield the specified resources, and nothing is logged. -/
theorem resourcesOf_specified {entries : List (Specification × Nat)} {declared : List Declaration}
    (h : List.Forall₂ (fun entry declaration => ∃ line,
      declaration = entry.1.declaration line entry.2) entries declared) :
    (∀ declaration ∈ declared, ∃ outcome, declaration.resource? context = ⟨[], .ok outcome⟩) ∧
      declared.filterMap (·.accepted? context)
        = entries.map fun entry => entry.1.resource entry.2 := by
  induction h with
  | nil => exact ⟨by simp, rfl⟩
  | cons hfirst _ ih =>
      obtain ⟨line, rfl⟩ := hfirst
      rw [List.forall_mem_cons, List.filterMap_cons, accepted?_declaration hfunctions hmarker, ih.2]
      exact ⟨⟨⟨_, Specification.resource?_eq hfunctions hmarker _ _ _⟩, ih.1⟩, rfl⟩

end Context

variable (specs) in
/-- The specified resources are collected, and nothing is logged. -/
theorem sourceResources_printed {settings : Settings}
    (hmarker : '\n' ∉ settings.marker ∧ '\x00' ∉ settings.marker) (environment : Environment) :
    ∃ declared, sourceResources (.ofCode (printed specs trailing) environment settings)
        ResourceKind.all = ⟨[], .ok declared⟩ ∧
      (specs.mapIdx Specification.resource).Perm declared := by
  have hfunctions : (Context.ofCode (printed specs trailing) environment settings).functions = [] :=
    functionBodies_free (not_mem_printed specs trailing (by decide) (by decide) (by decide))
  obtain ⟨hquiet, hresources⟩ := resourcesOf_specified hfunctions hmarker
    (forall₂_declarationsFrom (printed specs trailing)
      (map_text_statements_printed specs trailing) 0)
  have hkinds := byKind_perm (declarations (printed specs trailing))
  refine ⟨_, resourcesOf_eq_of_quiet fun declaration hmem => ?_, ?_⟩
  · exact hquiet declaration (hkinds.mem_iff.mp hmem)
  · rw [List.mapIdx_eq_zipIdx_map, ← hresources]
    exact (hkinds.filterMap _).symm

end Printed

/-! ## The emitted lines -/

section Row

variable {marks : List (Option Decorator)} {tail : Text}

theorem rowText_map_none (marks : List (Option Decorator)) :
    rowText (marks.map fun _ => none) [] = List.replicate marks.length ' ' := by
  induction marks with
  | nil => rfl
  | cons mark marks ih =>
      rw [List.map_cons, rowText, ih, List.length_cons, List.replicate_succ]
      rfl

/-- The slot takes the place of the decorators that give one. -/
theorem bindVariable_rowText {slotOf : Text → Option Slot} {slot : Slot} (h : IsRow marks tail)
    (hquiet : ∀ decorator, some decorator ∈ marks → IsQuiet (decorator.text ++ [' ']))
    (hslots : ∀ decorator, some decorator ∈ marks → isSlotDecorator decorator.name = true)
    {name rest : Text} (hread : namedVariable tail = some (name, rest))
    (hslot : slotOf name = some slot) :
    bindVariable slotOf (rowText marks tail)
      = .ok (List.replicate marks.length ' ' ++ slotText slot ++ tail) := by
  have hcleared : marks.map (·.filter fun decorator => !isSlotDecorator decorator.name)
      = marks.map fun _ => none := by
    refine List.map_congr_left fun mark hmark => ?_
    cases mark with
    | none => rfl
    | some decorator => simp [Option.filter, hslots decorator hmark]
  have hbare : IsQuiet (rowText (marks.map fun _ => none) []) :=
    .rowText fun decorator hmem => by simp at hmem
  unfold bindVariable
  dsimp only
  rw [removeDecorators_rowText h, hcleared, rowText_eq_append, rowText_eq_append (marks.map _),
    (IsQuiet.rowText hquiet).findVariable?_append .namedVariable hread,
    hbare.findVariable?_append .namedVariable hread]
  dsimp only
  rw [hslot, Option.isNone_some, if_neg (by decide), List.take_left, List.drop_left,
    rowText_map_none]

end Row

namespace Specification

variable (spec : Specification)

theorem namedVariable_variableText :
    ∃ rest, namedVariable spec.variableText = some (spec.name.text, rest) := by
  rw [variableText_eq]
  exact ⟨_, namedVariable_read spec.name.isIdentifier spec.shape.keyword_mem _⟩

/-- The places of the decorators when the one that announces the resource is taken out. -/
def keptMarks : List (Option Decorator) :=
  spec.marks.map (·.filter fun decorator => !isMarkup .resource decorator.name)

theorem isRow_keptMarks : IsRow spec.keptMarks spec.variableText :=
  spec.isRow.filter _

theorem length_keptMarks : spec.keptMarks.length = spec.marks.length :=
  List.length_map _

variable {spec} in
/-- The decorators of the slot are left. -/
theorem mem_keptMarks {decorator : Decorator} (h : some decorator ∈ spec.keptMarks) :
    some decorator ∈ spec.marks ∧ ∃ name ∈ slotNames, decorator.name = name.toList := by
  obtain ⟨mark, hmark, heq⟩ := List.mem_map.mp h
  obtain ⟨rfl, hplain⟩ := Option.filter_eq_some_iff.mp heq
  refine ⟨hmark, ?_⟩
  rcases mem_marks.mp hmark with hslots | rfl
  · obtain ⟨name, n, rfl, hname⟩ := exists_filled_of_mem_slotMarks hslots
    exact ⟨name, hname, rfl⟩
  · have hmarkup : isMarkup .resource spec.shape.creator.name = true := by
      show isMarkup .resource spec.shape.kind.decoratorName = true
      cases spec.shape.kind <;> decide
    rw [hmarkup] at hplain
    cases hplain

/-- The variable with its slot in front. -/
def boundLine (slotOf : Text → Option Slot) : Text :=
  (slotOf spec.name.text).elim [] slotText ++ spec.variableText

/-- The same with the spaces that stood behind the decorators. -/
def spacedLine (slotOf : Text → Option Slot) : Text :=
  List.replicate spec.marks.length ' ' ++ spec.boundLine slotOf

section Plain

variable {spec} {slotOf : Text → Option Slot} {slot : Slot}
  (hslot : slotOf spec.name.text = some slot)

include hslot

/-- In the plain form of a line the slot is all that is left of the decorators. -/
theorem plainPiece_line (workgroup : Option Extent) :
    plainPiece .resource workgroup slotOf spec.line = .ok (spec.spacedLine slotOf) := by
  have hbalanced : spec.marks.reduceOption.any (fun decorator => !decorator.balanced) = false := by
    rw [List.any_eq_false]
    intro decorator hmem
    simp [(spec.isWritten_of_mem_marks decorator (List.reduceOption_mem_iff.mp hmem)).balanced]
  have hremoved : removeDecorators (isMarkup .resource) (rowText spec.marks spec.variableText)
      = rowText spec.keptMarks spec.variableText := removeDecorators_rowText spec.isRow _
  have hnames : ∀ name ∈ slotNames, isSlotDecorator name.toList = true ∧
      name.toList ≠ "compute".toList ∧ name.toList ≠ "fragment".toList := by decide
  have hkept : ∀ decorator, some decorator ∈ spec.keptMarks →
      isSlotDecorator decorator.name = true ∧
        decorator.name ≠ "compute".toList ∧ decorator.name ≠ "fragment".toList := by
    intro decorator hmem
    obtain ⟨-, name, hname, heq⟩ := mem_keptMarks hmem
    rw [heq]
    exact hnames name hname
  obtain ⟨rest, hread⟩ := spec.namedVariable_variableText
  rw [line_eq, plainPiece, any_calls_rowText spec.isRow fun decorator => !decorator.balanced,
    hbalanced, if_neg (by decide), hremoved,
    plainEntries_rowText spec.isRow_keptMarks workgroup
      fun decorator hmem => (hkept decorator hmem).2,
    bindVariable_rowText spec.isRow_keptMarks
      (fun decorator hmem => spec.isQuiet_of_mem_marks decorator (mem_keptMarks hmem).1)
      (fun decorator hmem => (hkept decorator hmem).1) hread hslot,
    length_keptMarks, List.append_assoc, spacedLine, boundLine, hslot, Option.elim_some]

theorem squeeze_boundLine : squeeze (spec.boundLine slotOf) = spec.boundLine slotOf := by
  have hkeywords : ∀ keyword ∈ Shape.keywords, squeeze keyword.toList = keyword.toList ∧
      keyword.toList.head? = some 'v' ∧
      ∀ c ∈ keyword.toList.getLast?, isHorizontal c = false := by decide
  have htypes : ∀ type ∈ Shape.types, ∀ c ∈ type.toList ++ [';'], isBlank c = false := by decide
  obtain ⟨hsqueezed, hstart, hend⟩ := hkeywords _ spec.shape.keyword_mem
  have hname : ∀ c ∈ spec.name.text ++ [':'], isBlank c = false := by
    rw [List.forall_mem_append]
    exact ⟨fun c hc => isBlank_eq_false_of_isWord (spec.name.isIdentifier.isWord c hc), by decide⟩
  have hkeyword : ∀ rest, squeeze (' ' :: (spec.shape.keyword.toList ++ rest))
      = ' ' :: (spec.shape.keyword.toList ++ squeeze rest) := by
    intro rest
    have hsolid : ∀ c ∈ (spec.shape.keyword.toList ++ rest).head?, isBlank c = false := by
      rw [List.head?_append, hstart]
      rintro c ⟨⟩
      decide
    rw [squeeze_space_cons hsolid, squeeze_append, hsqueezed]
    intro c hc d _ hc'
    rw [hend c hc] at hc'
    cases hc'
  have hsplit : spec.boundLine slotOf = groupText slot ++ ' ' :: (bindingText slot
      ++ ' ' :: (spec.shape.keyword.toList ++ ' ' :: ((spec.name.text ++ [':'])
        ++ ' ' :: ((spec.shape.type.toList ++ [';']) ++ [])))) := by
    rw [boundLine, hslot, Option.elim_some, slotText_eq, variableText_eq]
    simp
  have hbinding : bindingText slot ≠ [] := List.append_ne_nil_of_left_ne_nil (by decide) _
  rw [hsplit, squeeze_word_append (groupText_solid slot),
    squeeze_space_word_append (bindingText_solid slot) hbinding, hkeyword,
    squeeze_space_word_append hname (by simp),
    squeeze_space_word_append (htypes _ spec.shape.type_mem) (by simp), squeeze]

theorem trim_boundLine : Text.trim (spec.boundLine slotOf) = spec.boundLine slotOf := by
  obtain ⟨body, hbody, -⟩ := spec.exists_variableText_eq
  have hline : spec.boundLine slotOf = (slotText slot ++ body) ++ ';' :: [] := by
    rw [boundLine, hslot, Option.elim_some, hbody, List.append_assoc]
  rw [hline, trim_append_cons _ (by decide)]
  rfl

/-- Tidying takes the spaces away. -/
theorem tidied_spacedLine : tidied (spec.spacedLine slotOf) = spec.boundLine slotOf := by
  have hspaces : ∀ c ∈ List.replicate spec.marks.length ' ', isBlank c = true := by
    intro c hc
    rw [List.eq_of_mem_replicate hc]
    decide
  have hstart : (spec.boundLine slotOf).head? = some '@' := by
    rw [boundLine, hslot]
    rfl
  rw [tidied, spacedLine, squeeze_append, squeeze_boundLine hslot,
    trim_blank_append ((respaced_squeeze _).blank hspaces), trim_boundLine hslot]
  rw [hstart]
  rintro c - d ⟨⟩ -
  decide

theorem newline_not_mem_spacedLine : '\n' ∉ spec.spacedLine slotOf := by
  obtain ⟨body, hbody, hchars⟩ := spec.exists_variableText_eq
  have hsolid : ∀ text : Text, (∀ c ∈ text, isBlank c = false) → '\n' ∉ text :=
    fun text htext hmem => absurd (htext _ hmem) (by decide)
  have hline : '\n' ∉ body := fun hmem => absurd (hchars _ hmem) (by decide)
  rw [spacedLine, boundLine, hslot, Option.elim_some, slotText_eq, hbody]
  simp [hsolid _ (groupText_solid slot), hsolid _ (bindingText_solid slot), hline]

end Plain

end Specification

/-- The code is made of the variables with their slots in front. -/
theorem emit_printed {specs : List Specification} (trailing : Nat) {resources : List Resource}
    (h : ∀ spec ∈ specs, ∃ slot, slotNamed? resources spec.name.text = some slot) :
    emit (printed specs trailing) resources .resource none
      = .ok (Text.unlines (specs.map (·.boundLine (slotNamed? resources)))) := by
  have hspecs : List.Forall₂
      (fun row plain => plainPiece .resource none (slotNamed? resources) row = .ok plain)
      (specs.map Specification.line) (specs.map (·.spacedLine (slotNamed? resources))) := by
    rw [List.forall₂_map_left_iff, List.forall₂_map_right_iff, List.forall₂_same]
    intro spec hmem
    obtain ⟨slot, hslot⟩ := h spec hmem
    exact Specification.plainPiece_line hslot none
  have htrailing : List.Forall₂
      (fun row plain => plainPiece .resource none (slotNamed? resources) row = .ok plain)
      (List.replicate trailing []) (List.replicate trailing []) := by
    rw [List.forall₂_same]
    intro row hrow
    rw [List.eq_of_mem_replicate hrow]
    exact plainPiece_nil _ _ _
  have hnewline : ∀ plain ∈ specs.map (·.spacedLine (slotNamed? resources))
      ++ List.replicate trailing [], '\n' ∉ plain := by
    intro plain hplain
    rcases List.mem_append.mp hplain with hplain | hplain
    · obtain ⟨spec, hmem, rfl⟩ := List.mem_map.mp hplain
      obtain ⟨slot, hslot⟩ := h spec hmem
      exact Specification.newline_not_mem_spacedLine hslot
    · rw [List.eq_of_mem_replicate hplain]
      simp
  have hcode : emit (printed specs trailing) resources .resource none = _ :=
    emit_unlines (isStatementLine_printed specs trailing) hnewline
      (List.rel_append hspecs htrailing)
  have htidied : (specs.map (·.spacedLine (slotNamed? resources))).map tidied
      = specs.map (·.boundLine (slotNamed? resources)) := by
    rw [List.map_map]
    refine List.map_congr_left fun spec hmem => ?_
    obtain ⟨slot, hslot⟩ := h spec hmem
    exact Specification.tidied_spacedLine hslot
  have hfilled : (specs.map (·.boundLine (slotNamed? resources))).filter (!·.isEmpty)
      = specs.map (·.boundLine (slotNamed? resources)) := by
    refine List.filter_eq_self.mpr fun row hrow => ?_
    obtain ⟨spec, -, rfl⟩ := List.mem_map.mp hrow
    obtain ⟨body, hbody, -⟩ := spec.exists_variableText_eq
    simp [Specification.boundLine, hbody]
  have hempty : ((List.replicate trailing ([] : Text)).map tidied).filter (!·.isEmpty) = [] := by
    rw [List.map_replicate]
    exact List.filter_replicate_of_neg (by decide)
  rw [hcode, List.map_append, htidied, List.filter_append, hfilled, hempty, List.append_nil]

/-! ## The whole compilation -/

/-- The shader is what the specifications ask for: their resources with the slots of the allocation,
and on each line a variable with the slot of its resource in front. -/
structure Shader.Realizes (shader : Shader) (specs : List Specification) : Prop where
  kind_eq : shader.kind = .resource
  entry_eq : shader.entry = none
  allocated : (shader.resources, shader.collisions) = allocate (specs.mapIdx Specification.resource)
  emitted : ∃ lines, shader.code = Text.unlines lines ∧
    List.Forall₂ (fun spec line => ∃ resource ∈ shader.resources, ∃ binding,
      resource.name = spec.name.text ∧ resource.binding = some binding ∧
      line = "@group(".toList ++ Text.ofInt resource.group ++ ") @binding(".toList
        ++ Text.ofInt binding ++ ") ".toList ++ spec.variableText) specs lines

section Specified

variable (specs : List Specification)

theorem distinctIndices_specified : DistinctIndices (specs.mapIdx Specification.resource) := by
  have hindices : (specs.mapIdx Specification.resource).map (·.declarationIndex)
      = (List.range' 0 specs.length).map fun index : Nat => (index : Int) := by
    rw [← List.zipIdx_map_snd 0 specs, List.mapIdx_eq_zipIdx_map, List.map_map, List.map_map]
    rfl
  have hrange : (List.range' 0 specs.length).Nodup := List.nodup_range'
  rw [DistinctIndices, hindices]
  exact hrange.map fun _ _ => Int.ofNat_inj.mp

theorem map_name_specified :
    (specs.mapIdx Specification.resource).map (·.name) = specs.map (·.name.text) := by
  rw [List.mapIdx_eq_zipIdx_map, List.map_map]
  conv_rhs => rw [← List.zipIdx_map_fst 0 specs, List.map_map]
  rfl

variable {specs}

/-- Every specification finds its resource and its slot by its name. -/
theorem exists_slotNamed?_specified (hnames : (specs.map (·.name.text)).Nodup)
    {spec : Specification} (h : spec ∈ specs) :
    ∃ resource ∈ (allocate (specs.mapIdx Specification.resource)).1, ∃ binding,
      resource.name = spec.name.text ∧ resource.binding = some binding ∧
      slotNamed? (allocate (specs.mapIdx Specification.resource)).1 spec.name.text
        = some ⟨resource.group, binding⟩ := by
  have hperm := map_name_allocate_perm (specs.mapIdx Specification.resource)
  rw [map_name_specified] at hperm
  have hname : spec.name.text ∈ specs.map (·.name.text) := List.mem_map_of_mem h
  obtain ⟨resource, hmem, heq⟩ := List.mem_map.mp (hperm.mem_iff.mpr hname)
  obtain ⟨binding, hbinding⟩ := exists_binding_of_mem_allocate hmem
  refine ⟨resource, hmem, binding, heq, hbinding, ?_⟩
  rw [← heq, slotNamed?_eq_some (hperm.nodup_iff.mpr hnames) hmem, Resource.slot,
    Resource.bindingNumber, hbinding, Option.getD_some]

end Specified

/-- Specifications that are printed one on a line are compiled to what they ask for, and no error is
logged. -/
theorem compile_printed {specs : List Specification} (hnames : (specs.map (·.name.text)).Nodup)
    {settings : Settings} (hmarker : '\n' ∉ settings.marker ∧ '\x00' ∉ settings.marker)
    (environment : Environment) (trailing : Nat) :
    ∃ shader,
      compile (printed specs trailing) environment settings
        = ⟨shader.collisions.map Collision.entry, .ok shader⟩ ∧
      (∀ entry ∈ shader.collisions.map Collision.entry, entry.level ≠ .error) ∧
      shader.Realizes specs := by
  have hcode := stripComments_printed specs trailing
  obtain ⟨declared, hdeclared, hperm⟩ := sourceResources_printed specs trailing hmarker environment
  have hallocate := allocate_eq_of_perm (distinctIndices_specified specs) hperm
  have hslots : ∀ spec ∈ specs, ∃ slot,
      slotNamed? (allocate declared).1 spec.name.text = some slot := by
    intro spec hmem
    obtain ⟨resource, -, binding, -, -, hslot⟩ := exists_slotNamed?_specified hnames hmem
    exact ⟨_, hallocate ▸ hslot⟩
  have hcompile : compile (printed specs trailing) environment settings = _ :=
    compile_eq_of_stages (hcode.symm ▸ shaderKind_printed specs trailing) (hcode.symm ▸ hdeclared)
      rfl (hcode.symm ▸ emit_printed trailing hslots)
  rw [List.nil_append] at hcompile
  refine ⟨{ kind := .resource, resources := (allocate declared).1, code := _,
            collisions := (allocate declared).2 }, hcompile, ?_, ?_⟩
  · intro entry hentry
    obtain ⟨collision, -, rfl⟩ := List.mem_map.mp hentry
    simp [Collision.entry]
  · refine ⟨rfl, rfl, hallocate.symm, _, rfl, ?_⟩
    rw [List.forall₂_map_right_iff, List.forall₂_same]
    intro spec hmem
    obtain ⟨resource, hresource, binding, hname, hbinding, hslot⟩ :=
      exists_slotNamed?_specified hnames hmem
    rw [hallocate] at hresource hslot
    refine ⟨resource, hresource, binding, hname, hbinding, ?_⟩
    rw [Specification.boundLine, hslot]
    rfl

/-- One specification of each shape.  The first and the last name the same slot. -/
def mixedSpecs : List Specification := [
  { name := ⟨"s".toList, by decide⟩, binding := some ⟨1, by decide⟩, shape := .sampler },
  { name := ⟨"t".toList, by decide⟩
    shape := .texture ⟨4, by decide, by decide⟩ ⟨8, by decide, by decide⟩
      ⟨"rgba8unorm".toList, by decide, by decide⟩ },
  { name := ⟨"b".toList, by decide⟩, group := some ⟨2, by decide⟩
    shape := .buffer ⟨16, by decide, by decide⟩ .readWrite },
  { name := ⟨"r".toList, by decide⟩, group := some ⟨0, by decide⟩, binding := some ⟨1, by decide⟩
    shape := .reference ⟨"blur".toList, by decide⟩ ⟨"image".toList, by decide⟩ }]

theorem compile_printed_mixedSpecs :
    mixedSpecs.map Specification.line = [
      "@binding(1) @sampler var s: sampler;".toList,
      "@texture(@size(4, 8) @format(rgba8unorm)) var t: texture_2d<f32>;".toList,
      "@group(2) @buffer(@size(16)) var<storage, read_write> b: array<f32>;".toList,
      "@group(0) @binding(1) @ref(blur.image) var r: texture_2d<f32>;".toList] ∧
    (mixedSpecs.map (·.name.text)).Nodup ∧
    ('\n' ∉ ({} : Settings).marker ∧ '\x00' ∉ ({} : Settings).marker) ∧
    ∃ shader,
      compile (printed mixedSpecs 1) [] {} = ⟨shader.collisions.map Collision.entry, .ok shader⟩ ∧
      (∀ entry ∈ shader.collisions.map Collision.entry, entry.level ≠ .error) ∧
      shader.Realizes mixedSpecs :=
  ⟨by decide +kernel, by decide, by decide, compile_printed (by decide) (by decide) [] 1⟩

end ShaderMarkup
