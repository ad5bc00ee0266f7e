import ShaderMarkup.Proofs.Specification

/-!
# What is built from a specified line

Nothing is wrong with the structure of a specified line (`Specification.issues_eq_nil`), and the
resource that is built from it is the specified one (`Specification.build_eq`).
-/

namespace ShaderMarkup

/-! ## Decorators by their names -/

section Named

variable {decorator : Decorator} {decorators others : List Decorator} {name : Text}

theorem firstNamed?_cons_of_eq (h : decorator.name = name) :
    firstNamed? (decorator :: decorators) name = some decorator :=
  List.find?_cons_of_pos (by simp [h])

theorem firstNamed?_cons_of_ne (h : decorator.name ≠ name) :
    firstNamed? (decorator :: decorators) name = firstNamed? decorators name :=
  List.find?_cons_of_neg (by simp [h])

theorem firstNamed?_append_of_ne (h : ∀ decorator ∈ decorators, decorator.name ≠ name) :
    firstNamed? (decorators ++ others) name = firstNamed? others name := by
  rw [firstNamed?, List.find?_append, List.find?_eq_none.mpr (by simpa using h), Option.none_or]
  rfl

end Named

section Found

variable {text : Text} {found : List Decorator} (hwalk : (walk text).map (·.value) = found)

include hwalk

theorem exists_findDecorator? {decorator : Decorator} {name : Text}
    (hfirst : firstNamed? found name = some decorator) :
    ∃ call, findDecorator? text name = some call ∧ call.value = decorator := by
  rw [← map_value_findDecorator? hwalk] at hfirst
  exact Option.map_eq_some_iff.mp hfirst

theorem findDecorator?_eq_none {name : Text} (hfirst : firstNamed? found name = none) :
    findDecorator? text name = none := by
  rw [← map_value_findDecorator? hwalk] at hfirst
  exact Option.map_eq_none_iff.mp hfirst

theorem filledArgument?_eq_some {name : String} {argument : Text}
    (hsolid : ∃ c ∈ argument, isBlank c = false)
    (hfirst : firstNamed? found name.toList = some (.filled name argument)) :
    filledArgument? text name = some argument := by
  obtain ⟨call, hcall, hvalue⟩ := exists_findDecorator? hwalk hfirst
  have htrim : call.value.trimmedArgument ≠ [] := by
    rw [hvalue]
    show Text.trim argument ≠ []
    rw [Ne, trim_eq_nil_iff, Text.trimLeft, List.dropWhile_eq_nil_iff]
    obtain ⟨c, hc, hblank⟩ := hsolid
    intro hall
    rw [hall c hc] at hblank
    cases hblank
  rw [filledArgument?, hcall]
  dsimp only
  rw [if_neg (by simpa using htrim), hvalue]
  rfl

omit hwalk in
theorem slotNumber_filled (name : String) {n : Nat} (h : n ≤ 2 ^ 53) :
    slotNumber (.filled name (Text.ofNat n)) = .ok n := by
  have hdigits : ∀ c ∈ Text.ofNat n, c.isDigit = true := fun c => Text.isDigit_of_mem_ofNat
  have hdecimal : ∀ c ∈ Text.ofNat n, isDecimal c = true :=
    fun c hc => isDecimal_of_isDigit (hdigits c hc)
  have hargument : (Decorator.filled name (Text.ofNat n)).trimmedArgument = Text.ofNat n :=
    trim_of_solid (solid_of_isDigit hdigits)
  have hleading : (Text.ofNat n).takeWhile isDecimal = Text.ofNat n :=
    List.takeWhile_eq_self_iff.mpr hdecimal
  have hall : (Text.ofNat n).all isDigit = true :=
    List.all_eq_true.mpr fun c hc => by rw [isDigit, hdecimal c hc, Bool.true_or]
  rw [slotNumber, hargument, hleading, hall, if_neg (by simpa using Text.ofNat_ne_nil n),
    if_neg (Nat.not_lt.mpr (Text.length_ofNat_le h)), if_neg (Nat.lt_irrefl _), Text.natValue_ofNat]

/-- The number of a slot decorator that may be missing. -/
theorem slotPart_eq_ok {name : String} {number : Option Nat} (hle : ∀ n ∈ number, n ≤ 2 ^ 53)
    (hfirst : firstNamed? found name.toList
      = number.map fun n => Decorator.filled name (Text.ofNat n)) :
    slotPart text name = .ok (number.map fun n : Nat => (n : Int)) := by
  cases number with
  | none => rw [slotPart, findDecorator?_eq_none hwalk hfirst, Option.map_none]
  | some n =>
      obtain ⟨call, hcall, hvalue⟩ := exists_findDecorator? hwalk hfirst
      rw [slotPart, hcall]
      dsimp only
      rw [hvalue, slotNumber_filled name (hle n rfl)]
      rfl

end Found

/-! ## Slots -/

namespace Shape

/-- The names of the decorators that announce a resource or describe it. -/
def names : List String :=
  ["sampler", "texture", "buffer", "ref", "size", "format"]

theorem name_mem {shape : Shape} {decorator : Decorator}
    (h : decorator ∈ shape.creator :: shape.inner) :
    decorator.name ∈ names.map String.toList := by
  have hmem : ∀ name ∈ names, name.toList ∈ names.map String.toList := fun _ => List.mem_map_of_mem
  cases shape with
  | sampler =>
      obtain rfl := List.mem_singleton.mp h
      exact hmem "sampler" (by decide)
  | texture width height format =>
      rcases List.mem_cons.mp h with rfl | h
      · exact hmem "texture" (by decide)
      · rcases List.mem_cons.mp h with rfl | h
        · exact hmem "size" (by decide)
        · obtain rfl := List.mem_singleton.mp h
          exact hmem "format" (by decide)
  | buffer count access =>
      rcases List.mem_cons.mp h with rfl | h
      · exact hmem "buffer" (by decide)
      · obtain rfl := List.mem_singleton.mp h
        exact hmem "size" (by decide)
  | reference node target =>
      obtain rfl := List.mem_singleton.mp h
      exact hmem "ref" (by decide)

theorem firstNamed?_slot (shape : Shape) {slot : String} (hslot : slot ∈ slotNames) :
    firstNamed? (shape.creator :: shape.inner) slot.toList = none := by
  have hnames : ∀ slot ∈ slotNames, slot.toList ∉ names.map String.toList := by decide
  rw [firstNamed?, List.find?_eq_none]
  intro decorator hmem
  have hname : decorator.name ≠ slot.toList :=
    ne_of_mem_of_not_mem (name_mem hmem) (hnames slot hslot)
  simpa using hname

end Shape

/-- Nothing comes before a group at the front. -/
theorem orderIssues_group_first (rest : Text) :
    orderIssues ('@' :: ("group".toList ++ '(' :: rest)) = [] := by
  have hread : decoratorMark "group" ('@' :: ("group".toList ++ '(' :: rest))
      = some ((), '(' :: rest) := by
    unfold decoratorMark
    simp only [Reader.bind_eq_some_iff, Reader.symbol_eq_some_iff, Reader.word_eq_some_iff,
      Reader.notBefore_eq_some_iff]
    exact ⟨(), _, rfl, (), _, rfl, rfl, by simp; decide⟩
  have hfirst : search (anywhere (decoratorMark "group")) ('@' :: ("group".toList ++ '(' :: rest))
      = _ := searchFrom_of_some hread
  rw [orderIssues, hfirst]
  cases search (anywhere (decoratorMark "binding")) ('@' :: ("group".toList ++ '(' :: rest)) with
  | none => rfl
  | some binding => exact if_neg (Nat.not_lt_zero _)

namespace Specification

variable (spec : Specification)

theorem firstNamed?_group :
    firstNamed? spec.found "group".toList
      = (spec.group.map Fin.val).map fun n => Decorator.filled "group" (Text.ofNat n) := by
  have hshape := spec.shape.firstNamed?_slot (by decide : "group" ∈ slotNames)
  rw [found, slotMarks]
  cases spec.group with
  | some group => exact firstNamed?_cons_of_eq rfl
  | none =>
      cases spec.binding with
      | none => exact hshape
      | some binding =>
          have hne : "binding".toList ≠ "group".toList := by decide
          exact (firstNamed?_cons_of_ne hne).trans hshape

theorem firstNamed?_binding :
    firstNamed? spec.found "binding".toList
      = (spec.binding.map Fin.val).map fun n => Decorator.filled "binding" (Text.ofNat n) := by
  have hne : "group".toList ≠ "binding".toList := by decide
  have hbinding : firstNamed? ((spec.binding.map fun binding =>
        Decorator.filled "binding" (Text.ofNat binding.val)).toList
          ++ spec.shape.creator :: spec.shape.inner) "binding".toList
      = (spec.binding.map Fin.val).map fun n => Decorator.filled "binding" (Text.ofNat n) := by
    cases spec.binding with
    | some binding => exact firstNamed?_cons_of_eq rfl
    | none => exact spec.shape.firstNamed?_slot (by decide : "binding" ∈ slotNames)
  rw [found, slotMarks, List.append_assoc]
  cases spec.group with
  | none => exact hbinding
  | some group => exact (firstNamed?_cons_of_ne hne).trans hbinding

/-- The slot is read back. -/
theorem slotOf_line :
    slotOf spec.line = .ok (spec.group.elim 0 fun group => (group.val : Int),
      spec.binding.map fun binding => (binding.val : Int)) := by
  have hle : ∀ number : Option (Fin (2 ^ 53)), ∀ n ∈ number.map Fin.val, n ≤ 2 ^ 53 := by
    intro number n hn
    obtain ⟨m, -, rfl⟩ := Option.map_eq_some_iff.mp hn
    exact m.isLt.le
  rw [slotOf, slotPart_eq_ok spec.map_value_walk_line (hle spec.group) spec.firstNamed?_group,
    slotPart_eq_ok spec.map_value_walk_line (hle spec.binding) spec.firstNamed?_binding]
  cases spec.group <;> cases spec.binding <;> rfl

theorem orderIssues_line : orderIssues spec.line = [] := by
  cases hgroup : spec.group with
  | none =>
      have hfirst := spec.firstNamed?_group
      rw [hgroup, Option.map_none, Option.map_none, firstNamed?, List.find?_eq_none] at hfirst
      have hnone : "group".toList ∉ markNames spec.line := by
        rw [markNames_line, List.mem_map]
        rintro ⟨decorator, hmem, hname⟩
        exact hfirst decorator hmem (decide_eq_true hname)
      rw [orderIssues, search_decoratorMark_eq_none (by decide) hnone]
  | some group =>
      obtain ⟨rest, hline⟩ : ∃ rest, spec.line = '@' :: ("group".toList ++ '(' :: rest) := by
        rw [line_eq, marks, slotMarks, hgroup, Option.map_some, Option.toList_some,
          List.cons_append, List.cons_append, List.map_cons, rowText]
        exact ⟨_, rfl⟩
      rw [hline]
      exact orderIssues_group_first rest

end Specification

/-! ## Variables -/

section Variables

open Reader

variable {name : Text} (h : IsIdentifier name)

include h

theorem plainHead_read (rest : Text) :
    plainHead ("var".toList ++ ' ' :: (name ++ ':' :: rest)) = some (name, rest) := by
  have hsolid : ∀ c ∈ (name ++ ':' :: rest).head?, isBlank c = false := by
    obtain ⟨c, others, rfl, hc, -⟩ := h
    rintro _ ⟨⟩
    exact isBlank_eq_false_of_isWord (isWord_of_isNameStart hc)
  unfold plainHead
  simp only [bind_eq_some_iff, word_eq_some_iff, blanks1_eq_some_iff, identifier_eq_some_iff,
    blanks_eq_some_iff, symbol_eq_some_iff, pure_apply, Option.some.injEq, Prod.mk.injEq]
  exact ⟨(), _, rfl, (), _, ⟨[' '], ⟨rfl, by decide, hsolid⟩, by decide⟩, name, _,
    ⟨h, rfl, by simp; decide⟩, (), _, ⟨[], rfl, by simp, by simp; decide⟩, (), rest, rfl, rfl, rfl⟩

theorem samplerVariable_read :
    samplerVariable ("var".toList ++ ' ' :: (name ++ ':' :: ' ' :: ("sampler".toList ++ [';'])))
      = some ({ name, type := "sampler".toList }, [';']) :=
  (bind_of_some (plainHead_read h _)).trans rfl

theorem textureVariable_read :
    textureVariable
        ("var".toList ++ ' ' :: (name ++ ':' :: ' ' :: ("texture_2d<f32>".toList ++ [';'])))
      = some ({ name, type := "texture_2d<f32>".toList }, [';']) :=
  (bind_of_some (plainHead_read h _)).trans rfl

theorem anyPlainVariable_read :
    anyPlainVariable
        ("var".toList ++ ' ' :: (name ++ ':' :: ' ' :: ("texture_2d<f32>".toList ++ [';'])))
      = some ({ name, type := "texture_2d<f32>".toList }, [';']) :=
  (bind_of_some (plainHead_read h _)).trans rfl

omit h in
theorem storageQualifier_read (count : Size) (access : Access) (rest : Text) :
    storageQualifier ((Shape.buffer count access).keyword.toList ++ rest)
      = some (access.word.toList, rest) := by
  cases access with
  | read =>
      show storageQualifier ("var<storage, read>".toList ++ rest) = some ("read".toList, rest)
      rfl
  | readWrite =>
      show storageQualifier ("var<storage, read_write>".toList ++ rest)
        = some ("read_write".toList, rest)
      rfl

theorem storageVariable_read (count : Size) (access : Access) :
    storageVariable ((Shape.buffer count access).keyword.toList
        ++ ' ' :: (name ++ ':' :: ' ' :: ("array<f32>".toList ++ [';'])))
      = some ({ name, type := "array<f32>".toList, access := some access.word.toList }, [';']) := by
  have hname : nameAndColon (' ' :: (name ++ ':' :: ' ' :: ("array<f32>".toList ++ [';'])))
      = some (name, ' ' :: ("array<f32>".toList ++ [';'])) :=
    nameAndColon_eq_some_iff.mpr ⟨[' '], [], rfl, h, by decide, by simp⟩
  exact (bind_of_some (storageQualifier_read count access _)).trans ((bind_of_some hname).trans rfl)

theorem namedVariable_read {keyword : String} (hkeyword : keyword ∈ Shape.keywords) (rest : Text) :
    namedVariable (keyword.toList ++ ' ' :: (name ++ ':' :: rest)) = some (name, rest) := by
  have hplain : VariableHead name ("var".toList ++ ([' '] ++ (name ++ ([] ++ [':'])))) :=
    .plain h (by decide) (by decide) (by simp)
  have htemplate : ∀ inner : Text, (∀ c ∈ inner, c ≠ '<' ∧ c ≠ '>' ∧ c ≠ ';') →
      VariableHead name
        ("var".toList ++ ([] ++ '<' :: (inner ++ '>' :: ([' '] ++ (name ++ ([] ++ [':'])))))) :=
    fun inner hinner => .template h (by simp) hinner (by decide) (by simp)
  rcases List.mem_cons.mp hkeyword with rfl | hkeyword
  · simpa using hplain.read_append rest
  · rcases List.mem_cons.mp hkeyword with rfl | hkeyword
    · simpa using (htemplate "storage, read".toList (by decide)).read_append rest
    · obtain rfl := List.mem_singleton.mp hkeyword
      simpa using (htemplate "storage, read_write".toList (by decide)).read_append rest

end Variables

theorem not_occurs_addressSpace {name : String} {front back : Text} (hfront : '<' ∉ front)
    (hback : '<' ∉ back) (hnone : addressSpace name ('<' :: back) = none) :
    occurs (anywhere (addressSpace name)) (front ++ '<' :: back) = false := by
  by_contra hoccurs
  obtain ⟨found, hfound⟩ : ∃ found,
      search (anywhere (addressSpace name)) (front ++ '<' :: back) = some found :=
    Option.ne_none_iff_exists'.mp (by simpa [occurs] using hoccurs)
  obtain ⟨left, right, rest, htext, -, hread⟩ := exists_of_searchFrom hfound
  have hread : addressSpace name right = some (found.value, rest) := hread
  obtain ⟨_, middle, hsymbol, -⟩ := Reader.bind_eq_some_iff.mp hread
  obtain rfl := Reader.symbol_eq_some_iff.mp hsymbol
  obtain ⟨-, -, rfl⟩ := (List.append_cons_inj_of_notMem hfront hback).mp htext
  rw [hnone] at hread
  cases hread

namespace Specification

variable (spec : Specification)

theorem findVariable?_line {α : Type} {reader : Reader α} (hopens : reader.OpensVariable)
    {value : α} {rest : Text} (hread : reader spec.variableText = some (value, rest)) :
    ∃ found, findVariable? reader spec.line = some found ∧ found.value = value := by
  rw [line_eq, rowText_eq_append]
  exact ⟨_, spec.isQuiet_marks.findVariable?_append hopens hread, rfl⟩

end Specification

/-! ## Sizes and wildcards -/

theorem positiveInteger_size (what : Text) (size : Size) :
    positiveInteger what (.int size.value) = .ok (size.value : Int) := by
  have hpos : ¬ (Number.int size.value).atMost (.int 0) = true := by
    rw [Number.atMost_int]
    have := size.pos
    omega
  rw [positiveInteger, if_neg hpos, isOversized_int size.le, Number.toInt?_int]
  rfl

theorem textureSize_pair (width height : Size) :
    textureSize [.int width.value, .int height.value] "texture_2d<f32>".toList
      = .ok [(width.value : Int), (height.value : Int)] := by
  have hdimensions : textureDimensions "texture_2d<f32>".toList = 2 := by decide
  have hfit : fitSize [.int width.value, .int height.value] "texture_2d<f32>".toList
      = .ok [.int width.value, .int height.value] := by
    rw [fitSize, hdimensions]
    rfl
  rw [textureSize, hfit, bind_ok, extentsFrom, positiveInteger_size, bind_ok, extentsFrom,
    positiveInteger_size]
  rfl

theorem isNameStart_of_mem_ofNat {n : Nat} {c : Char} (h : c ∈ Text.ofNat n) :
    isNameStart c = false :=
  isNameStart_of_isDigit (Text.isDigit_of_mem_ofNat h)

theorem isNameStart_sizeText (width height : Size) :
    ∀ c ∈ sizeText width height, isNameStart c = false := by
  have hcomma : ∀ c ∈ ", ".toList, isNameStart c = false := by decide
  intro c hc
  rcases List.mem_append.mp hc with hc | hc
  · exact isNameStart_of_mem_ofNat hc
  · rcases List.mem_append.mp hc with hc | hc
    · exact hcomma c hc
    · exact isNameStart_of_mem_ofNat hc

theorem Format.trim_text (format : Format) : Text.trim format.text = format.text :=
  trim_of_solid fun c hc =>
    isBlank_eq_false_of_isWord (by simp [isWord, format.alphanumeric c hc])

theorem Format.isTextureFormat_text (format : Format) : isTextureFormat format.text = true := by
  have hkept : (format.text.filter fun c => c != '-' && c != '_') = format.text := by
    refine List.filter_eq_self.mpr fun c hc => ?_
    have halphanumeric := format.alphanumeric c hc
    have hne : ∀ d, isAlphanumeric d = false → c ≠ d := by
      rintro d hd rfl
      rw [halphanumeric] at hd
      cases hd
    simp [hne '-' (by decide), hne '_' (by decide)]
  have hne : format.text.isEmpty = false := by simpa using format.ne_nil
  rw [isTextureFormat, hkept, hne, List.all_eq_true.mpr format.alphanumeric]
  rfl

/-- Without the start of a name no wildcard is mentioned. -/
theorem mentionedWildcards_eq_nil {expression : Text}
    (h : ∀ c ∈ expression, isNameStart c = false) (marker : Text) :
    mentionedWildcards marker expression = [] := by
  have hsegments : segments (anywhere (Token.readWildcard marker)) expression
      = expression.map .plain := by
    refine segmentsFrom_of_refused (fun before c rest hsuffix => ?_) none
    cases hread : Token.readWildcard marker (c :: rest) with
    | none => exact hread
    | some result =>
        obtain ⟨name, remaining⟩ := result
        unfold Token.readWildcard at hread
        simp only [Reader.bind_eq_some_iff, Reader.exactly_eq_some_iff,
          Reader.identifier_eq_some_iff] at hread
        obtain ⟨_, _, htext, ⟨d, others, rfl, hd, -⟩, rfl, -⟩ := hread
        rw [h d (hsuffix.subset (by simp [htext]))] at hd
        cases hd
  have hvalues := map_value_hitsFrom 0 (segments (anywhere (Token.readWildcard marker)) expression)
  rw [mentionedWildcards, searchAll, hvalues, hsegments, filterMap_value?_plain]
  rfl

theorem Context.mentioned_eq_nil (context : Context) {expressions : List Text}
    (h : ∀ expression ∈ expressions, ∀ c ∈ expression, isNameStart c = false) :
    context.mentioned expressions = [] := by
  have hnone : expressions.flatMap (mentionedWildcards context.settings.marker) = [] :=
    List.flatMap_eq_nil_iff.mpr fun expression hmem =>
      mentionedWildcards_eq_nil (h expression hmem) _
  rw [Context.mentioned, hnone]
  rfl

namespace Specification

variable (spec : Specification)

/-- The declaration that the line makes. -/
def declaration (line index : Nat) : Declaration where
  kind := spec.shape.kind
  text := spec.line
  line
  index
  creators := [spec.shape.kind]

theorem firstNamed?_found {name : String} (hname : name ∉ slotNames) :
    firstNamed? spec.found name.toList
      = firstNamed? (spec.shape.creator :: spec.shape.inner) name.toList := by
  refine firstNamed?_append_of_ne fun decorator hmem => ?_
  obtain ⟨slot, n, rfl, hslot⟩ := exists_filled_of_mem_slotMarks hmem
  intro hsame
  exact hname (String.toList_inj.mp hsame ▸ hslot)

variable {spec} in
theorem parameterDecorators_line (h : spec.shape.inner = []) (kind : ResourceKind) :
    parameterDecorators kind spec.line = [] := by
  refine List.flatMap_eq_nil_iff.mpr fun call hcall => ?_
  have hmem : call.value ∈ spec.slotMarks ++ [spec.shape.creator] := by
    rw [← map_value_calls_line]
    exact List.mem_map_of_mem (List.mem_of_mem_filter hcall)
  have hholds : call.value.Holds [] := by
    rcases List.mem_append.mp hmem with hmem | hmem
    · exact .leaf (isLeaf_of_mem_slotMarks hmem)
    · rw [List.mem_singleton.mp hmem, ← h]
      exact spec.shape.holds_creator
  rw [hholds.map_value_children, List.filter_nil]

theorem exists_solid_ofNat (n : Nat) : ∃ c ∈ Text.ofNat n, isBlank c = false := by
  obtain ⟨c, hc⟩ := List.exists_mem_of_ne_nil _ (Text.ofNat_ne_nil n)
  exact ⟨c, hc, isBlank_eq_false_of_isWord (isWord_of_isDigit (Text.isDigit_of_mem_ofNat hc))⟩

variable {spec} in
theorem findVariable?_sampler (h : spec.shape = .sampler) :
    ∃ found, findVariable? samplerVariable spec.line = some found ∧
      found.value = { name := spec.name.text, type := "sampler".toList } := by
  have hread : samplerVariable spec.variableText
      = some ({ name := spec.name.text, type := "sampler".toList }, [';']) := by
    rw [variableText_eq, h]
    exact samplerVariable_read spec.name.isIdentifier
  exact spec.findVariable?_line .samplerVariable hread

section Texture

variable {spec} {width height : Size} {format : Format}
  (h : spec.shape = .texture width height format)

include h

theorem findVariable?_texture :
    ∃ found, findVariable? textureVariable spec.line = some found ∧
      found.value = { name := spec.name.text, type := "texture_2d<f32>".toList } := by
  have hread : textureVariable spec.variableText
      = some ({ name := spec.name.text, type := "texture_2d<f32>".toList }, [';']) := by
    rw [variableText_eq, h]
    exact textureVariable_read spec.name.isIdentifier
  exact spec.findVariable?_line .textureVariable hread

theorem filledArgument?_size_texture :
    filledArgument? spec.line "size" = some (sizeText width height) := by
  have hne : "texture".toList ≠ "size".toList := by decide
  have hfirst : firstNamed? spec.found "size".toList
      = some (.filled "size" (sizeText width height)) := by
    rw [firstNamed?_found spec (by decide), h]
    exact (firstNamed?_cons_of_ne hne).trans (firstNamed?_cons_of_eq rfl)
  refine filledArgument?_eq_some spec.map_value_walk_line ?_ hfirst
  obtain ⟨c, hc, hsolid⟩ := exists_solid_ofNat width.value
  exact ⟨c, List.mem_append_left _ hc, hsolid⟩

theorem filledArgument?_format :
    filledArgument? spec.line "format" = some format.text := by
  have hne : "texture".toList ≠ "format".toList := by decide
  have hne' : "size".toList ≠ "format".toList := by decide
  have hfirst : firstNamed? spec.found "format".toList = some (.filled "format" format.text) := by
    rw [firstNamed?_found spec (by decide), h]
    exact (firstNamed?_cons_of_ne hne).trans
      ((firstNamed?_cons_of_ne hne').trans (firstNamed?_cons_of_eq rfl))
  refine filledArgument?_eq_some spec.map_value_walk_line ?_ hfirst
  obtain ⟨c, hc⟩ := List.exists_mem_of_ne_nil _ format.ne_nil
  exact ⟨c, hc, isBlank_eq_false_of_isWord (by simp [isWord, format.alphanumeric c hc])⟩

end Texture

section Buffer

variable {spec} {count : Size} {access : Access} (h : spec.shape = .buffer count access)

include h

theorem findVariable?_storage :
    ∃ found, findVariable? storageVariable spec.line = some found ∧
      found.value = {
        name := spec.name.text
        type := "array<f32>".toList
        access := some access.word.toList } := by
  have hread : storageVariable spec.variableText
      = some ({ name := spec.name.text, type := "array<f32>".toList,
                access := some access.word.toList }, [';']) := by
    rw [variableText_eq, h]
    exact storageVariable_read spec.name.isIdentifier count access
  exact spec.findVariable?_line (Reader.OpensTemplate.opensVariable .storageVariable) hread

theorem exists_storageQualifier :
    ∃ found, findVariable? storageQualifier spec.line = some found ∧
      found.value = access.word.toList := by
  have hread : storageQualifier spec.variableText
      = some (access.word.toList, ' ' :: (spec.name.text ++ ':' :: ' ' ::
          ("array<f32>".toList ++ [';']))) := by
    rw [variableText_eq, h]
    exact storageQualifier_read count access _
  exact spec.findVariable?_line (Reader.OpensTemplate.opensVariable .storageQualifier) hread

theorem filledArgument?_size_buffer :
    filledArgument? spec.line "size" = some (Text.ofNat count.value) := by
  have hne : "buffer".toList ≠ "size".toList := by decide
  have hfirst : firstNamed? spec.found "size".toList
      = some (.filled "size" (Text.ofNat count.value)) := by
    rw [firstNamed?_found spec (by decide), h]
    exact (firstNamed?_cons_of_ne hne).trans (firstNamed?_cons_of_eq rfl)
  exact filledArgument?_eq_some spec.map_value_walk_line (exists_solid_ofNat count.value) hfirst

theorem findDecorator?_stride : findDecorator? spec.line "stride".toList = none := by
  have hne : "buffer".toList ≠ "stride".toList := by decide
  have hne' : "size".toList ≠ "stride".toList := by decide
  refine findDecorator?_eq_none spec.map_value_walk_line ?_
  rw [firstNamed?_found spec (by decide), h]
  exact (firstNamed?_cons_of_ne hne).trans (firstNamed?_cons_of_ne hne')

theorem occurs_backingTypeMark : occurs (anywhere backingTypeMark) spec.line = true := by
  have hline : spec.line
      = (rowText spec.marks [] ++ spec.shape.keyword.toList ++ ' ' :: spec.name.text)
        ++ ':' :: ' ' :: ("array<f32>".toList ++ [';']) := by
    rw [line_eq, rowText_eq_append, variableText_eq, h]
    simp [Shape.type]
  refine occurs_of_suffix hline ?_
  decide

end Buffer

section Reference

variable {spec} {node target : Identifier} (h : spec.shape = .reference node target)

include h

theorem filledArgument?_ref :
    filledArgument? spec.line "ref" = some (node.text ++ '.' :: target.text) := by
  have hfirst : firstNamed? spec.found "ref".toList
      = some (.filled "ref" (node.text ++ '.' :: target.text)) := by
    rw [firstNamed?_found spec (by decide), h]
    exact firstNamed?_cons_of_eq rfl
  refine filledArgument?_eq_some spec.map_value_walk_line ?_ hfirst
  exact ⟨'.', by simp, by decide⟩

/-- The only angle bracket of the line stands in the type. -/
theorem exists_angle : ∃ front, '<' ∉ front ∧
    spec.line = front ++ 'd' :: '<' :: "f32>;".toList := by
  refine ⟨rowText spec.marks [] ++ "var ".toList ++ spec.name.text ++ ": texture_2".toList, ?_, ?_⟩
  · have hmarks := spec.isQuiet_marks.not_mem
    have hname : '<' ∉ spec.name.text :=
      not_mem_of_simple (fun c hc => spec.name.isSimple hc) (by decide)
    simp [hmarks, hname]
  · rw [line_eq, rowText_eq_append, variableText_eq, h]
    simp [Shape.keyword, Shape.type]

theorem referenceVariable_line :
    referenceVariable spec.line
      = .ok { name := spec.name.text, type := "texture_2d<f32>".toList } := by
  have hread : anyPlainVariable spec.variableText
      = some ({ name := spec.name.text, type := "texture_2d<f32>".toList }, [';']) := by
    rw [variableText_eq, h]
    exact anyPlainVariable_read spec.name.isIdentifier
  obtain ⟨found, hfound, hvalue⟩ := spec.findVariable?_line .anyPlainVariable hread
  obtain ⟨front, hfront, hline⟩ := exists_angle h
  have hstorage : findVariable? storageVariable spec.line = none := by
    rw [hline]
    exact Reader.OpensTemplate.storageVariable.findVariable?_eq_none hfront (by decide) (by decide)
  have huniform : findVariable? anyUniformVariable spec.line = none := by
    rw [hline]
    exact Reader.OpensTemplate.anyUniformVariable.findVariable?_eq_none hfront (by decide)
      (by decide)
  have hshapes : [storageVariable, anyUniformVariable, anyPlainVariable].findSome?
      (fun shape => findVariable? shape spec.line) = some found := by
    simp only [List.findSome?_cons, hstorage, huniform, hfound]
  have hcollapse : Text.collapse "texture_2d<f32>".toList = "texture_2d<f32>".toList := by decide
  unfold referenceVariable
  dsimp only
  rw [hshapes]
  dsimp only
  rw [hvalue]
  dsimp only
  rw [hcollapse]

theorem referenceCategory_line :
    referenceCategory "texture_2d<f32>".toList spec.line = .ok .texture := by
  obtain ⟨front, hfront, hline⟩ := exists_angle h
  have hangle : front ++ 'd' :: '<' :: "f32>;".toList
      = (front ++ ['d']) ++ '<' :: "f32>;".toList := by
    simp
  have hnone : ∀ name ∈ ["storage", "uniform"],
      occurs (anywhere (addressSpace name)) spec.line = false := by
    have hread : ∀ name ∈ ["storage", "uniform"],
        addressSpace name ('<' :: "f32>;".toList) = none := by decide
    intro name hname
    rw [hline, hangle]
    exact not_occurs_addressSpace (by simp [hfront]) (by decide) (hread name hname)
  have hsampler : ¬ ("texture_2d<f32>".toList = "sampler".toList ∨
      "texture_2d<f32>".toList = "sampler_comparison".toList) := by decide
  have hknown : Text.among textureTypes (baseType "texture_2d<f32>".toList) = true := by decide
  rw [referenceCategory, hnone "storage" (by decide), if_neg (by decide),
    hnone "uniform" (by decide), if_neg (by decide), if_neg hsampler, if_pos hknown]

omit h in
theorem whole_referenceTarget (node target : Identifier) :
    Reader.whole referenceTarget (Text.trim (node.text ++ '.' :: target.text))
      = some (node.text, target.text) := by
  have hsolid : ∀ c ∈ node.text ++ '.' :: target.text, isBlank c = false := by
    have hname : ∀ name : Identifier, ∀ c ∈ name.text, isBlank c = false := fun name c hc =>
      isBlank_eq_false_of_isWord (name.isIdentifier.isWord c hc)
    intro c hc
    rcases List.mem_append.mp hc with hc | hc
    · exact hname node c hc
    · rcases List.mem_cons.mp hc with rfl | hc
      · decide
      · exact hname target c hc
  have hread : referenceTarget (node.text ++ '.' :: target.text)
      = some ((node.text, target.text), []) := by
    unfold referenceTarget
    simp only [Reader.bind_eq_some_iff, Reader.identifier_eq_some_iff, Reader.symbol_eq_some_iff,
      Reader.pure_apply, Option.some.injEq, Prod.mk.injEq]
    exact ⟨node.text, _, ⟨node.isIdentifier, rfl, by simp; decide⟩, (), _, rfl, target.text, [],
      ⟨target.isIdentifier, by simp, by simp⟩, ⟨rfl, rfl⟩, rfl⟩
  rw [trim_of_solid hsolid, Reader.whole, hread]

end Reference

section Build

variable {context : Context} (hfunctions : context.functions = [])
  (hmarker : '\n' ∉ context.settings.marker ∧ '\x00' ∉ context.settings.marker) (line index : Nat)

include hfunctions in
theorem context_resource_eq (expressions : List Text)
    (h : ∀ expression ∈ expressions, ∀ c ∈ expression, isNameStart c = false) :
    context.resource (spec.declaration line index) spec.name.text
        (spec.group.elim 0 fun group => (group.val : Int),
          spec.binding.map fun binding => (binding.val : Int))
        expressions spec.shape.detail
      = spec.resource index := by
  rw [Context.resource, context.mentioned_eq_nil h, hfunctions]
  rfl

variable {spec}

include hfunctions in
theorem build_sampler (h : spec.shape = .sampler) :
    Sampler.build context (spec.declaration line index) = .ok (spec.resource index) := by
  obtain ⟨found, hfound, hvalue⟩ := findVariable?_sampler h
  have hlevels : Sampler.checkLevels {} = .ok () := rfl
  have hdetail : spec.shape.detail = .sampler {} := by rw [h]; rfl
  have hresource := spec.context_resource_eq hfunctions line index [] (by simp)
  unfold Sampler.build
  dsimp only [declaration]
  rw [hfound]
  dsimp only
  rw [parameterDecorators_line (by rw [h]; rfl), samplerArguments, bind_ok, Sampler.setAll, bind_ok,
    hlevels, bind_ok, slotOf_line, bind_ok, hvalue, pure_eq_ok, ← hresource, hdetail]
  rfl

include hfunctions hmarker in
theorem build_texture {width height : Size} {format : Format}
    (h : spec.shape = .texture width height format) :
    Texture.build context (spec.declaration line index) = .ok (spec.resource index) := by
  obtain ⟨found, hfound, hvalue⟩ := findVariable?_texture h
  have hevaluate : context.evaluate (sizeText width height)
      = .ok [.int width.value, .int height.value] :=
    evaluate_pair context.environment hmarker width.le height.le
  have hcollapse : Text.collapse "texture_2d<f32>".toList = "texture_2d<f32>".toList := by decide
  have hknown : Text.among textureTypes (baseType "texture_2d<f32>".toList) = true := by decide
  have hdetail : spec.shape.detail = .texture {
      size := [width.value, height.value], format := format.text,
      type := "texture_2d<f32>".toList } := by
    rw [h]
    rfl
  have hresource := spec.context_resource_eq hfunctions line index [sizeText width height]
    (by simpa using isNameStart_sizeText width height)
  unfold Texture.build
  dsimp only [declaration]
  rw [hfound, filledArgument?_size_texture h, filledArgument?_format h]
  dsimp only
  rw [hvalue]
  dsimp only
  rw [hcollapse, hknown, if_neg (by decide), hevaluate, bind_ok, textureSize_pair, bind_ok,
    format.trim_text, format.isTextureFormat_text, if_neg (by decide), slotOf_line, bind_ok,
    ← hresource, hdetail]
  rfl

include hfunctions hmarker in
theorem build_buffer {count : Size} {access : Access} (h : spec.shape = .buffer count access) :
    Buffer.build context (spec.declaration line index) = .ok (spec.resource index) := by
  obtain ⟨found, hfound, hvalue⟩ := findVariable?_storage h
  have hcollapse : Text.collapse "array<f32>".toList = "array<f32>".toList := by decide
  have hbacking : backingType "array<f32>".toList = .ok "array<f32>".toList := if_pos (by decide)
  have hcount : singlePositive context "Buffer size" (Text.ofNat count.value)
      = .ok (count.value : Int) := by
    have hevaluate : context.evaluate (Text.ofNat count.value) = .ok [.int count.value] :=
      evaluate_ofNat context.environment hmarker count.le
    rw [singlePositive, hevaluate, bind_ok]
    exact positiveInteger_size _ count
  have hstride : bufferStride context none "array<f32>".toList = .ok none := by
    have hsearch : search (anywhere structuredStride) "array<f32>".toList = none := by decide
    rw [bufferStride, hsearch]
    rintro _ _ ⟨⟩
  have hfit : checkStride "array<f32>".toList count.value none = .ok () := if_pos (by decide)
  have hdetail : spec.shape.detail = .buffer {
      elementCount := count.value, elementType := "array<f32>".toList,
      access := access.word.toList } := by
    rw [h]
    rfl
  have hresource := spec.context_resource_eq hfunctions line index [Text.ofNat count.value]
    (by simpa using fun c => isNameStart_of_mem_ofNat)
  unfold Buffer.build
  dsimp only [declaration]
  rw [hfound, filledArgument?_size_buffer h, findDecorator?_stride h]
  dsimp only [Option.bind_none, Option.toList_none]
  rw [hvalue]
  dsimp only
  rw [hcollapse, hbacking, bind_ok, hcount, bind_ok, hstride, bind_ok, hfit, bind_ok, slotOf_line,
    bind_ok, ← hresource, hdetail]
  rfl

include hfunctions in
theorem build_reference {node target : Identifier} (h : spec.shape = .reference node target) :
    Reference.build context (spec.declaration line index) = .ok (spec.resource index) := by
  have hdetail : spec.shape.detail = .reference {
      targetNode := node.text, targetResource := target.text,
      type := "texture_2d<f32>".toList, category := .texture } := by
    rw [h]
    rfl
  have hresource := spec.context_resource_eq hfunctions line index [] (by simp)
  unfold Reference.build
  dsimp only [declaration]
  rw [filledArgument?_ref h, Option.map_some]
  dsimp only
  rw [whole_referenceTarget]
  dsimp only
  rw [referenceVariable_line h, bind_ok, slotOf_line, bind_ok, referenceCategory_line h, bind_ok,
    ← hresource, hdetail]
  rfl

include hfunctions hmarker in
/-- The resource that is built from the line is the specified one. -/
theorem build_eq (spec : Specification) :
    (spec.declaration line index).build context = ⟨[], .ok (spec.resource index)⟩ := by
  have hkind : (spec.declaration line index).kind = spec.shape.kind := rfl
  rw [Declaration.build, hkind]
  cases h : spec.shape with
  | sampler =>
      dsimp only [Shape.kind]
      rw [build_sampler hfunctions line index h]
      rfl
  | texture width height format =>
      dsimp only [Shape.kind]
      rw [build_texture hfunctions hmarker line index h]
      rfl
  | buffer count access =>
      dsimp only [Shape.kind]
      rw [build_buffer hfunctions hmarker line index h]
      rfl
  | reference node target =>
      dsimp only [Shape.kind]
      rw [build_reference hfunctions line index h]
      rfl

/-- Nothing is wrong with the structure of the line. -/
theorem issues_eq_nil (spec : Specification) : (spec.declaration line index).issues = [] := by
  have hkind : (spec.declaration line index).kind = spec.shape.kind := rfl
  have htext : (spec.declaration line index).text = spec.line := rfl
  have hcreators : (spec.declaration line index).creators = [spec.shape.kind] := rfl
  rw [Declaration.issues, hkind, htext, hcreators, spec.isEven_line.bracketIssues_eq_nil,
    orderIssues_line]
  cases h : spec.shape with
  | sampler =>
      obtain ⟨found, hfound, -⟩ := findVariable?_sampler h
      dsimp only [Shape.kind]
      rw [Sampler.issues, hfound]
      rfl
  | texture width height format =>
      obtain ⟨found, hfound, -⟩ := findVariable?_texture h
      dsimp only [Shape.kind]
      rw [Texture.issues, List.filterMap_cons, filledArgument?_size_texture h, List.filterMap_cons,
        filledArgument?_format h, hfound]
      rfl
  | buffer count access =>
      obtain ⟨found, hfound, -⟩ := findVariable?_storage h
      obtain ⟨qualifier, hqualifier, -⟩ := exists_storageQualifier h
      dsimp only [Shape.kind]
      rw [Buffer.issues, filledArgument?_size_buffer h, hqualifier, hfound,
        occurs_backingTypeMark h]
      rfl
  | reference node target =>
      dsimp only [Shape.kind]
      rw [Reference.issues, filledArgument?_ref h, referenceVariable_line h]
      rfl

include hfunctions hmarker in
/-- The declaration yields the specified resource, and nothing is logged. -/
theorem resource?_eq (spec : Specification) :
    (spec.declaration line index).resource? context = ⟨[], .ok (some (spec.resource index))⟩ := by
  rw [Declaration.resource?, issues_eq_nil, build_eq hfunctions hmarker]

end Build

end Specification

end ShaderMarkup
