import ShaderMarkup.Proofs.Numeral
import ShaderMarkup.Proofs.Search

/-!
# Specified declarations

A `Specification` says what a declaration asks for.  It is written as a line of source
(`Specification.line`) and stands for a resource (`Specification.resource`).

* The line is a row of decorators and a variable (`Specification.line_eq`), so what is found in it
  follows from the decorators: `Specification.found` lists them.
* No variable starts in front of the variable (`Specification.isQuiet_marks`), and the brackets of
  the line come in pairs (`Specification.isEven_line`).
-/

namespace ShaderMarkup

/-! ## Specifications -/

/-- An identifier. -/
structure Identifier where
  text : Text
  isIdentifier : Reader.IsIdentifier text

/-- A positive size that a double can hold. -/
structure Size where
  value : Nat
  pos : 1 ≤ value
  le : value ≤ 2 ^ 53

/-- A texel format made of letters and digits. -/
structure Format where
  text : Text
  ne_nil : text ≠ []
  alphanumeric : ∀ c ∈ text, isAlphanumeric c = true

/-- How a shader uses a storage buffer. -/
inductive Access where
  | read
  | readWrite
deriving DecidableEq

/-- The word for an access. -/
def Access.word : Access → String
  | .read => "read"
  | .readWrite => "read_write"

/-- What a declaration declares. -/
inductive Shape where
  | sampler
  | texture (width height : Size) (format : Format)
  | buffer (count : Size) (access : Access)
  | reference (node target : Identifier)

namespace Shape

/-- The kind of the resource. -/
def kind : Shape → ResourceKind
  | .sampler => .sampler
  | .texture _ _ _ => .texture
  | .buffer _ _ => .buffer
  | .reference _ _ => .reference

/-- The decorator that announces the resource, as it is written. -/
def markup : Shape → Text
  | .sampler => "@sampler".toList
  | .texture width height format =>
      "@texture(@size(".toList ++ Text.ofNat width.value ++ ", ".toList ++ Text.ofNat height.value
        ++ ") @format(".toList ++ format.text ++ "))".toList
  | .buffer count _ => "@buffer(@size(".toList ++ Text.ofNat count.value ++ "))".toList
  | .reference node target => "@ref(".toList ++ node.text ++ ".".toList ++ target.text ++ ")".toList

/-- The keyword of the variable, with its address space if it has one. -/
def keyword : Shape → String
  | .buffer _ .read => "var<storage, read>"
  | .buffer _ .readWrite => "var<storage, read_write>"
  | _ => "var"

/-- The type of the variable. -/
def type : Shape → String
  | .sampler => "sampler"
  | .texture _ _ _ => "texture_2d<f32>"
  | .buffer _ _ => "array<f32>"
  | .reference _ _ => "texture_2d<f32>"

/-- What is special to the kind. -/
def detail : Shape → Detail
  | .sampler => .sampler {}
  | .texture width height format =>
      .texture {
        size := [width.value, height.value]
        format := format.text
        type := "texture_2d<f32>".toList }
  | .buffer count access =>
      .buffer {
        elementCount := count.value
        elementType := "array<f32>".toList
        access := access.word.toList }
  | .reference node target =>
      .reference {
        targetNode := node.text
        targetResource := target.text
        type := "texture_2d<f32>".toList
        category := .texture }

end Shape

/-- A declaration that is specified: a name, a slot as far as it is given, and a shape. -/
structure Specification where
  name : Identifier
  group : Option (Fin (2 ^ 53)) := none
  binding : Option (Fin (2 ^ 53)) := none
  shape : Shape

namespace Specification

/-- The variable, as it is written. -/
def variableText (spec : Specification) : Text :=
  spec.shape.keyword.toList ++ " ".toList ++ spec.name.text ++ ": ".toList
    ++ spec.shape.type.toList ++ ";".toList

/-- The declaration on a line of its own. -/
def line (spec : Specification) : Text :=
  spec.group.elim [] (fun group => "@group(".toList ++ Text.ofNat group.val ++ ") ".toList)
    ++ spec.binding.elim []
      (fun binding => "@binding(".toList ++ Text.ofNat binding.val ++ ") ".toList)
    ++ spec.shape.markup ++ " ".toList ++ spec.variableText

/-- The resource that is specified, as the declaration with an index. -/
def resource (index : Nat) (spec : Specification) : Resource where
  name := spec.name.text
  group := spec.group.elim 0 fun group => (group.val : Int)
  binding := spec.binding.map fun binding => (binding.val : Int)
  declarationIndex := index
  detail := spec.shape.detail

end Specification

/-! ## The line as a row -/

/-- The names of the decorators that give a slot. -/
def slotNames : List String :=
  ["group", "binding"]

/-- The argument for the size of a texture. -/
def sizeText (width height : Size) : Text :=
  Text.ofNat width.value ++ (", ".toList ++ Text.ofNat height.value)

namespace Shape

/-- The decorators inside the argument of the one that announces the resource. -/
def inner : Shape → List Decorator
  | .sampler => []
  | .texture width height format =>
      [.filled "size" (sizeText width height), .filled "format" format.text]
  | .buffer count _ => [.filled "size" (Text.ofNat count.value)]
  | .reference _ _ => []

/-- The argument of the decorator that announces the resource. -/
def argument : Shape → Option Text
  | .sampler => none
  | .texture width height format =>
      some (rowText [some (.filled "size" (sizeText width height))]
        (Decorator.filled "format" format.text).text)
  | .buffer count _ => some (Decorator.filled "size" (Text.ofNat count.value)).text
  | .reference node target => some (node.text ++ '.' :: target.text)

/-- The decorator that announces the resource. -/
def creator (shape : Shape) : Decorator where
  name := shape.kind.decoratorName
  argument := shape.argument

theorem markup_eq (shape : Shape) : shape.markup = shape.creator.text := by
  cases shape with
  | sampler => rfl
  | texture width height format =>
      unfold markup creator argument sizeText
      simp only [rowText, Decorator.text, Decorator.filled, Option.elim_some, List.append_assoc,
        List.cons_append]
      rfl
  | buffer count access =>
      unfold markup creator argument
      simp only [Decorator.text, Decorator.filled, Option.elim_some, List.append_assoc,
        List.cons_append]
      rfl
  | reference node target =>
      unfold markup creator argument
      simp only [Decorator.text, Option.elim_some, List.append_assoc, List.cons_append]
      rfl

end Shape

namespace Specification

variable (spec : Specification)

/-- The decorators that give the slot. -/
def slotMarks : List Decorator :=
  (spec.group.map fun group => Decorator.filled "group" (Text.ofNat group.val)).toList
    ++ (spec.binding.map fun binding => Decorator.filled "binding" (Text.ofNat binding.val)).toList

/-- The decorators of the line, those inside arguments aside. -/
def marks : List (Option Decorator) :=
  (spec.slotMarks ++ [spec.shape.creator]).map some

/-- All decorators of the line. -/
def found : List Decorator :=
  spec.slotMarks ++ spec.shape.creator :: spec.shape.inner

theorem line_eq : spec.line = rowText spec.marks spec.variableText := by
  rw [line, Shape.markup_eq, marks, slotMarks]
  cases spec.group <;> cases spec.binding <;>
    simp only [Option.elim_none, Option.elim_some, Option.map_none, Option.map_some,
      Option.toList_none, Option.toList_some, List.append_assoc, List.nil_append, List.map_cons,
      List.map_nil, List.cons_append, rowText, Decorator.text, Decorator.filled] <;>
    rfl

end Specification

/-! ## Parts of the line -/

namespace Shape

/-- The keywords that there are. -/
def keywords : List String :=
  ["var", "var<storage, read>", "var<storage, read_write>"]

theorem keyword_mem (shape : Shape) : shape.keyword ∈ keywords := by
  cases shape with
  | buffer count access => cases access <;> simp [keyword, keywords]
  | _ => simp [keyword, keywords]

/-- The types that there are. -/
def types : List String :=
  ["sampler", "texture_2d<f32>", "array<f32>"]

theorem type_mem (shape : Shape) : shape.type ∈ types := by
  cases shape <;> simp [type, types]

end Shape

theorem isSimple_of_mem_ofNat {n : Nat} {c : Char} (h : c ∈ Text.ofNat n) : isSimple c = true :=
  isSimple_of_isWord (isWord_of_isDigit (Text.isDigit_of_mem_ofNat h))

theorem Format.isSimple (format : Format) {c : Char} (h : c ∈ format.text) :
    isSimple c = true :=
  isSimple_of_isWord (by simp [isWord, format.alphanumeric c h])

theorem Identifier.isSimple (name : Identifier) {c : Char} (h : c ∈ name.text) :
    isSimple c = true :=
  isSimple_of_isWord (name.isIdentifier.isWord c h)

namespace Shape

theorem isLeaf_of_mem_inner {shape : Shape} {decorator : Decorator}
    (h : decorator ∈ shape.inner) : decorator.IsLeaf := by
  cases shape with
  | sampler => cases h
  | reference node target => cases h
  | buffer count access =>
      obtain rfl := List.mem_singleton.mp h
      exact .filled (by decide) fun c hc => isSimple_of_mem_ofNat hc
  | texture width height format =>
      rcases List.mem_cons.mp h with rfl | h
      · have hcomma : ∀ c ∈ ", ".toList, isSimple c = true := by decide
        refine .filled (by decide) fun c hc => ?_
        rcases List.mem_append.mp hc with hc | hc
        · exact isSimple_of_mem_ofNat hc
        · rcases List.mem_append.mp hc with hc | hc
          · exact hcomma c hc
          · exact isSimple_of_mem_ofNat hc
      · obtain rfl := List.mem_singleton.mp h
        exact .filled (by decide) fun c hc => format.isSimple hc

/-- What the decorator that announces the resource holds. -/
theorem holds_creator (shape : Shape) : shape.creator.Holds shape.inner := by
  have hleaf : ∀ decorator ∈ shape.inner, decorator.IsLeaf := fun _ => isLeaf_of_mem_inner
  have hname := isIdentifier_decoratorName shape.kind
  cases shape with
  | sampler => exact .leaf ⟨hname, by rintro _ ⟨⟩, rfl⟩
  | texture width height format =>
      exact @Decorator.Holds.nest _ [_] _ hname hleaf
  | buffer count access => exact @Decorator.Holds.nest _ [] _ hname hleaf
  | reference node target =>
      refine .leaf ⟨hname, ?_, rfl⟩
      rintro _ ⟨⟩ c hc
      rcases List.mem_append.mp hc with hc | hc
      · exact node.isSimple hc
      · rcases List.mem_cons.mp hc with rfl | hc
        · decide
        · exact target.isSimple hc

/-- No variable starts in the decorator of a texture. -/
theorem isQuiet_texture {width height format : Text} (hwidth : ∀ c ∈ width, endsKeyword c = false)
    (hheight : ∀ c ∈ height, endsKeyword c = false)
    (hformat : ∀ c ∈ format, endsKeyword c = false) :
    IsQuiet ("@texture(@size(".toList ++ width ++ ", ".toList ++ height ++ ") @format(".toList
      ++ format ++ "))".toList ++ [' ']) := by
  have hchunks : "@texture(@size(".toList ++ width ++ ", ".toList ++ height
        ++ ") @format(".toList ++ format ++ "))".toList ++ [' ']
      = ("@texture(@size(".toList ++ width) ++ [','] ++ [' '] ++ (height ++ [')'] ++ [' ']
        ++ ("@format(".toList ++ format ++ [')'] ++ [')'] ++ [' '])) := by
    simp
  rw [hchunks]
  refine .append (.of_concat ?_ (by decide)) (.append (.of_concat ?_ (by decide))
    (.of_concat ?_ (by decide)))
  all_goals simp only [List.forall_mem_append]
  · exact ⟨⟨by decide, hwidth⟩, by decide⟩
  · exact ⟨hheight, by decide⟩
  · exact ⟨⟨⟨by decide, hformat⟩, by decide⟩, by decide⟩

/-- No variable starts in the decorator that announces the resource. -/
theorem isQuiet_creator (shape : Shape) : IsQuiet (shape.creator.text ++ [' ']) := by
  have hdigits : ∀ n, ∀ c ∈ Text.ofNat n, endsKeyword c = false := fun n c hc =>
    endsKeyword_of_isWord (isWord_of_isDigit (Text.isDigit_of_mem_ofNat hc))
  have hname : ∀ name : Identifier, ∀ c ∈ name.text, endsKeyword c = false := fun name c hc =>
    endsKeyword_of_isWord (name.isIdentifier.isWord c hc)
  rw [← markup_eq]
  cases shape with
  | sampler => exact .of_chunk (by decide) (by decide)
  | texture width height format =>
      exact isQuiet_texture (hdigits _) (hdigits _) fun c hc =>
        endsKeyword_of_isWord (by simp [isWord, format.alphanumeric c hc])
  | buffer count access =>
      have hsolid : ∀ c ∈ "@buffer(@size(".toList ++ Text.ofNat count.value ++ [')'] ++ [')'],
          endsKeyword c = false := by
        simp only [List.forall_mem_append]
        exact ⟨⟨⟨by decide, hdigits _⟩, by decide⟩, by decide⟩
      have hquiet := IsQuiet.of_concat hsolid (by decide)
      rwa [List.append_assoc (_ ++ _) [')'] [')']] at hquiet
  | reference node target =>
      have hsolid : ∀ c ∈ "@ref(".toList ++ node.text ++ ".".toList ++ target.text ++ [')'],
          endsKeyword c = false := by
        simp only [List.forall_mem_append]
        exact ⟨⟨⟨⟨by decide, hname node⟩, by decide⟩, hname target⟩, by decide⟩
      exact .of_concat hsolid (by decide)

end Shape

namespace Specification

variable (spec : Specification)

variable {spec} in
theorem exists_filled_of_mem_slotMarks {decorator : Decorator} (h : decorator ∈ spec.slotMarks) :
    ∃ name n, decorator = .filled name (Text.ofNat n) ∧ name ∈ slotNames := by
  rcases List.mem_append.mp h with h | h
  · obtain ⟨group, -, rfl⟩ := Option.map_eq_some_iff.mp (Option.mem_toList.mp h)
    exact ⟨"group", group.val, rfl, by decide⟩
  · obtain ⟨binding, -, rfl⟩ := Option.map_eq_some_iff.mp (Option.mem_toList.mp h)
    exact ⟨"binding", binding.val, rfl, by decide⟩

variable {spec} in
theorem isLeaf_of_mem_slotMarks {decorator : Decorator} (h : decorator ∈ spec.slotMarks) :
    decorator.IsLeaf := by
  have hnames : ∀ name ∈ slotNames, Reader.IsIdentifier name.toList := by decide
  obtain ⟨name, n, rfl, hname⟩ := exists_filled_of_mem_slotMarks h
  exact .filled (hnames name hname) fun c hc => isSimple_of_mem_ofNat hc

variable {spec} in
theorem mem_marks {decorator : Decorator} :
    some decorator ∈ spec.marks ↔ decorator ∈ spec.slotMarks ∨ decorator = spec.shape.creator := by
  simp [marks]

theorem isWritten_of_mem_marks (decorator : Decorator) (h : some decorator ∈ spec.marks) :
    decorator.IsWritten := by
  rcases mem_marks.mp h with h | rfl
  · exact (isLeaf_of_mem_slotMarks h).isWritten
  · exact spec.shape.holds_creator.isWritten

/-- No variable starts in a decorator of the line. -/
theorem isQuiet_of_mem_marks (decorator : Decorator) (h : some decorator ∈ spec.marks) :
    IsQuiet (decorator.text ++ [' ']) := by
  have hnames : ∀ name ∈ slotNames, ∀ c ∈ name.toList, isWord c = true := by decide
  rcases mem_marks.mp h with h | rfl
  · obtain ⟨name, n, rfl, hname⟩ := exists_filled_of_mem_slotMarks h
    exact .filled (hnames name hname) fun c hc =>
      endsKeyword_of_isWord (isWord_of_isDigit (Text.isDigit_of_mem_ofNat hc))
  · exact spec.shape.isQuiet_creator

theorem isQuiet_marks : IsQuiet (rowText spec.marks []) :=
  .rowText spec.isQuiet_of_mem_marks

theorem variableText_eq : spec.variableText
    = spec.shape.keyword.toList
      ++ ' ' :: (spec.name.text ++ ':' :: ' ' :: (spec.shape.type.toList ++ [';'])) := by
  simp [variableText]

theorem isEven_line : IsEven spec.line := by
  rw [line_eq]
  refine .rowText (fun decorator h => ?_) ?_
  · rcases mem_marks.mp h with h | rfl
    · exact (isLeaf_of_mem_slotMarks h).isEven
    · exact spec.shape.holds_creator.isEven
  · have hkeywords : ∀ keyword ∈ Shape.keywords, IsEven keyword.toList := by decide
    have htypes : ∀ type ∈ Shape.types, IsEven type.toList := by decide
    have hname : IsEven spec.name.text := .of_simple fun c hc => spec.name.isSimple hc
    exact .append (.append (.append (.append (.append (hkeywords _ spec.shape.keyword_mem)
      (by decide)) hname) (by decide)) (htypes _ spec.shape.type_mem)) (by decide)

theorem isRow : IsRow spec.marks spec.variableText where
  written := spec.isWritten_of_mem_marks
  free := by
    have hkeywords : ∀ keyword ∈ Shape.keywords, '@' ∉ keyword.toList := by decide
    have htypes : ∀ type ∈ Shape.types, '@' ∉ type.toList := by decide
    have hname : '@' ∉ spec.name.text :=
      not_mem_of_simple (fun c hc => spec.name.isSimple hc) (by decide)
    rw [variableText_eq]
    simp [hkeywords _ spec.shape.keyword_mem, htypes _ spec.shape.type_mem, hname]
  starts := by
    have hkeywords : ∀ keyword ∈ Shape.keywords, keyword.toList.head? = some 'v' := by decide
    rw [variableText_eq, List.head?_append, hkeywords _ spec.shape.keyword_mem]
    rintro c ⟨⟩
    decide

theorem map_value_calls_line :
    (calls spec.line).map (·.value) = spec.slotMarks ++ [spec.shape.creator] := by
  rw [line_eq, map_value_calls_rowText spec.isRow, marks, reduceOption_map_some]

/-- All decorators of the line are found. -/
theorem map_value_walk_line : (walk spec.line).map (·.value) = spec.found := by
  obtain ⟨depth, hdepth⟩ : ∃ depth, spec.line.length = depth + 2 := by
    refine Nat.exists_eq_add_of_le' ?_
    rw [line_eq, rowText_eq_append, variableText_eq]
    simp only [List.length_append, List.length_cons]
    omega
  have hslots := flatMap_walkWithin_free
    (fun decorator (h : decorator ∈ spec.slotMarks) => (isLeaf_of_mem_slotMarks h).free) (depth + 1)
  rw [walk, hdepth, map_value_walkWithin, map_value_calls_line, List.flatMap_append, hslots,
    List.flatMap_singleton, spec.shape.holds_creator.map_value_walkWithin]
  rfl

/-- The names behind an `@` are those of the decorators. -/
theorem markNames_line : markNames spec.line = spec.found.map (·.name) := by
  rw [line_eq, markNames_rowText spec.isWritten_of_mem_marks, markNames_free spec.isRow.free,
    List.append_nil, marks, reduceOption_map_some, List.flatMap_append,
    flatMap_markNames_of_isLeaf fun decorator => isLeaf_of_mem_slotMarks, List.flatMap_singleton,
    spec.shape.holds_creator.markNames_argument, found, List.map_append, List.map_cons]

end Specification

end ShaderMarkup
