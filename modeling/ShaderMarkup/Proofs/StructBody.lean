import ShaderMarkup.Proofs.Comma
import ShaderMarkup.Proofs.Row
import ShaderMarkup.Proofs.Table
import ShaderMarkup.Proofs.TypeTerm

/-!
# Struct bodies

A struct body is a list of fields, each with its attributes, its name and its type, with a comma or
a semicolon between neighbours and white space around them.  `Field.text` writes a field, and
`Lists` says that a body is such a list.  The fields are read back with their types
(`entries_structFields_of_lists`).

The body is cut at the separators that stand outside all brackets, where angle brackets count.  A
text is `Unbroken` from a depth on if it is not cut there and leaves the depth as it was.  The
commas of array types and of attributes stand in brackets, so fields are unbroken from depth zero.
-/

namespace ShaderMarkup

/-! ## Fields -/

/-- The opening brackets of a struct body. -/
def opensNesting (c : Char) : Bool :=
  isOpening c || c == '<'

/-- The closing brackets of a struct body. -/
def closesNesting (c : Char) : Bool :=
  isClosing c || c == '>'

/-- A text whose brackets match. -/
inductive IsBalanced : Text → Prop
  | nil : IsBalanced []
  | plain {c : Char} {text : Text} (hc : opensNesting c = false ∧ closesNesting c = false)
      (htext : IsBalanced text) : IsBalanced (c :: text)
  | bracket {opening closing : Char} {inner rest : Text}
      (hpair : (opening, closing) ∈ bracketPairs) (hinner : IsBalanced inner)
      (hrest : IsBalanced rest) : IsBalanced (opening :: (inner ++ closing :: rest))

/-- An attribute of a field, such as `@align(16)`. -/
structure Attribute where
  name : Text
  argument : Option Text
  isIdentifier : Reader.IsIdentifier name
  isBalanced : ∀ given ∈ argument, IsBalanced given

def Attribute.decorator (given : Attribute) : Decorator :=
  ⟨given.name, given.argument, true⟩

/-- A field of a struct. -/
structure Field (ν : Type) where
  attributes : List Attribute
  name : Text
  type : TypeTerm ν
  isIdentifier : Reader.IsIdentifier name

namespace Field

variable {ν : Type} (spelling : ν → Text)

/-- The text of a field without its attributes. -/
def core (field : Field ν) : Text :=
  field.name ++ ':' :: ' ' :: field.type.text spelling

/-- The text of a field, with a space behind each attribute. -/
def text (field : Field ν) : Text :=
  rowText (field.attributes.map fun given => some given.decorator) (field.core spelling)

end Field

/-- The body lists the fields, with a comma or a semicolon behind each of them.  It may be missing
behind the last. -/
inductive Lists {ν : Type} (spelling : ν → Text) : List (Field ν) → Text → Prop
  | nil {blanks : Text} (hblanks : ∀ c ∈ blanks, isBlank c = true) : Lists spelling [] blanks
  | last {before after : Text} (hbefore : ∀ c ∈ before, isBlank c = true)
      (hafter : ∀ c ∈ after, isBlank c = true) (field : Field ν) :
      Lists spelling [field] (before ++ (field.text spelling ++ after))
  | cons {before after rest : Text} {separator : Char} {fields : List (Field ν)}
      (hbefore : ∀ c ∈ before, isBlank c = true) (hafter : ∀ c ∈ after, isBlank c = true)
      (hseparator : separator ∈ [',', ';']) (field : Field ν)
      (hrest : Lists spelling fields rest) :
      Lists spelling (field :: fields)
        (before ++ (field.text spelling ++ (after ++ separator :: rest)))

/-! ## Texts that are not cut -/

/-- The pieces of a struct body, from a depth on. -/
def bodyPieces : Int → Text → List Text :=
  topLevelPieces opensNesting closesNesting fun c => c ∈ [',', ';']

/-- From every depth of at least `least`, the text is not cut, and the depth behind it is the same
as in front of it. -/
def Unbroken (least : Int) (text : Text) : Prop :=
  ∀ depth, least ≤ depth → ∀ rest,
    bodyPieces depth (text ++ rest) = (bodyPieces depth rest).modifyHead (text ++ ·)

theorem bodyPieces_cons {depth : Int} {c : Char} {rest : Text}
    (h : c ∉ [',', ';'] ∨ depthAfter opensNesting closesNesting depth c ≠ 0) :
    bodyPieces depth (c :: rest)
      = (bodyPieces (depthAfter opensNesting closesNesting depth c) rest).modifyHead (c :: ·) := by
  have hcut : ¬ (decide (c ∈ [',', ';'])
      && depthAfter opensNesting closesNesting depth c == 0) = true := by
    rw [Bool.and_eq_true, decide_eq_true_eq, beq_iff_eq]
    exact fun ⟨hmark, hzero⟩ => h.elim (· hmark) (· hzero)
  obtain ⟨piece, pieces, heq⟩ := List.exists_cons_of_ne_nil
    (@topLevelPieces_ne_nil opensNesting closesNesting (fun c => c ∈ [',', ';'])
      (depthAfter opensNesting closesNesting depth c) rest)
  rw [bodyPieces, topLevelPieces, if_neg hcut, heq]
  rfl

namespace Unbroken

variable {least : Int} {text : Text}

theorem nil : Unbroken least [] := by
  intro depth _ rest
  rw [List.nil_append]
  cases bodyPieces depth rest <;> rfl

theorem append {left right : Text} (hleft : Unbroken least left) (hright : Unbroken least right) :
    Unbroken least (left ++ right) := by
  intro depth hdepth rest
  rw [List.append_assoc, hleft depth hdepth, hright depth hdepth, List.modifyHead_modifyHead]
  congr 1
  funext piece
  exact (List.append_assoc left right piece).symm

theorem mono {most : Int} (h : Unbroken least text) (hle : least ≤ most) : Unbroken most text :=
  fun depth hdepth => h depth (hle.trans hdepth)

/-- A character that is no bracket, and no separator unless it stands in brackets. -/
theorem cons {c : Char} (hc : opensNesting c = false ∧ closesNesting c = false)
    (hseparator : c ∉ [',', ';'] ∨ 1 ≤ least) (htext : Unbroken least text) :
    Unbroken least (c :: text) := by
  intro depth hdepth rest
  have hsame : depthAfter opensNesting closesNesting depth c = depth := by
    simp [depthAfter, hc.1, hc.2]
  have hwhole : c ∉ [',', ';'] ∨ depthAfter opensNesting closesNesting depth c ≠ 0 := by
    refine hseparator.imp_right fun hleast => ?_
    rw [hsame]
    omega
  rw [List.cons_append, bodyPieces_cons hwhole, hsame, htext depth hdepth,
    List.modifyHead_modifyHead]
  rfl

/-- Brackets raise the depth of what they enclose. -/
theorem enclosed (htext : Unbroken (least + 1) text) {opening closing : Char}
    (hpair : (opening, closing) ∈ bracketPairs) :
    Unbroken least (opening :: (text ++ [closing])) := by
  have hpairs : ∀ pair ∈ bracketPairs, opensNesting pair.1 = true ∧ pair.1 ∉ [',', ';'] ∧
      opensNesting pair.2 = false ∧ closesNesting pair.2 = true ∧ pair.2 ∉ [',', ';'] := by
    decide
  obtain ⟨hopens, hopening, hinside, hcloses, hclosing⟩ := hpairs _ hpair
  intro depth hdepth rest
  have hdeeper : depthAfter opensNesting closesNesting depth opening = depth + 1 := by
    simp [depthAfter, hopens]
  have hback : depthAfter opensNesting closesNesting (depth + 1) closing = depth := by
    simp [depthAfter, hinside, hcloses]
  rw [List.cons_append, List.append_assoc, List.singleton_append,
    bodyPieces_cons (Or.inl hopening), hdeeper, htext (depth + 1) (by omega),
    bodyPieces_cons (Or.inl hclosing), hback, List.modifyHead_modifyHead,
    List.modifyHead_modifyHead]
  congr 1
  funext piece
  simp

/-- A text of a class that holds neither brackets nor separators. -/
theorem of_class {accepts : Char → Bool}
    (hall : ∀ c ∈ ['(', ')', '[', ']', '\x7b', '\x7d', '<', '>', ',', ';'], accepts c = false)
    (htext : ∀ c ∈ text, accepts c = true) : Unbroken least text := by
  induction text with
  | nil => exact nil
  | cons c text ih =>
      rw [List.forall_mem_cons] at htext
      have hne : c ∉ ['(', ')', '[', ']', '\x7b', '\x7d', '<', '>', ',', ';'] := by
        intro hmem
        rw [hall c hmem] at htext
        cases htext.1
      simp only [List.mem_cons, List.not_mem_nil, or_false, not_or] at hne
      refine cons ?_ (Or.inl ?_) (ih htext.2)
      · simp [opensNesting, closesNesting, isOpening, isClosing, hne]
      · simp [hne]

/-- An unbroken text is a piece of its own. -/
theorem bodyPieces_eq (h : Unbroken 0 text) : bodyPieces 0 text = [text] := by
  have hpieces := h 0 le_rfl []
  rw [List.append_nil] at hpieces
  rw [hpieces]
  exact congrArg (fun piece => [piece]) (List.append_nil text)

theorem bodyPieces_append_separator (h : Unbroken 0 text) {separator : Char}
    (hseparator : separator ∈ [',', ';']) (rest : Text) :
    bodyPieces 0 (text ++ separator :: rest) = text :: bodyPieces 0 rest := by
  have hcut : bodyPieces 0 (separator :: rest) = [] :: bodyPieces 0 rest := by
    simp only [List.mem_cons, List.not_mem_nil, or_false] at hseparator
    rcases hseparator with rfl | rfl <;> rfl
  rw [h 0 le_rfl, hcut, List.modifyHead_cons, List.append_nil]

theorem of_word (htext : ∀ c ∈ text, isWord c = true) : Unbroken least text :=
  of_class (by decide) htext

theorem of_blank (htext : ∀ c ∈ text, isBlank c = true) : Unbroken least text :=
  of_class (by decide) htext

end Unbroken

theorem IsBalanced.unbroken {text : Text} (h : IsBalanced text) : Unbroken 1 text := by
  induction h with
  | nil => exact .nil
  | plain hc _ ih => exact ih.cons hc (Or.inr le_rfl)
  | @bracket opening closing inner rest hpair _ _ hinner hrest =>
      have henclosed := (hinner.mono (by decide : (1 : Int) ≤ 1 + 1)).enclosed hpair
      simpa using henclosed.append hrest

/-- Decorators know three kinds of brackets, so they close where they should. -/
theorem IsBalanced.isNested {text : Text} (h : IsBalanced text) : IsNested text := by
  induction h with
  | nil => exact .nil
  | @plain c text hc _ ih =>
      simp only [opensNesting, closesNesting, Bool.or_eq_false_iff] at hc
      exact ih.cons hc.1.1 hc.2.1
  | @bracket opening closing inner rest hpair _ _ hinner hrest =>
      have hpairs : ∀ pair ∈ bracketPairs, pair = ('<', '>') ∨ isOpening pair.1 = true ∧
          isOpening pair.2 = false ∧ isClosing pair.2 = true := by
        decide
      rcases hpairs _ hpair with heq | ⟨hopening, hclosing⟩
      -- Angle brackets are like any other character to a decorator.
      · cases heq
        exact .cons (by decide) (by decide) (hinner.append (.cons (by decide) (by decide) hrest))
      · simpa using (hinner.bracketed hopening hclosing).append hrest

theorem Attribute.isWritten (given : Attribute) : given.decorator.IsWritten where
  name := given.isIdentifier
  argument argument hargument := (given.isBalanced argument hargument).isNested
  balanced := rfl

theorem Attribute.unbroken_text (given : Attribute) : Unbroken 0 given.decorator.text := by
  refine .cons (by decide) (by decide) (.append (.of_word given.isIdentifier.isWord) ?_)
  cases hargument : given.decorator.argument with
  | none => exact .nil
  | some argument => exact .enclosed (given.isBalanced argument hargument).unbroken (by decide)

theorem TypeTerm.unbroken_text {ν : Type} {spelling : ν → Text}
    (hspelling : ∀ name, IsStructName (spelling name)) (type : TypeTerm ν) :
    Unbroken 0 (type.text spelling) := by
  have hcomponent {letters : List Suffix} (component : Component letters) :
      Unbroken 0 component.text := by
    cases component with
    | long base => exact .enclosed (.of_word base.isWord_of_mem_name) (by decide)
    | short suffix h => exact .of_word (List.forall_mem_singleton.mpr suffix.isWord_letter)
  have hdigit (width : Width) {rest : Text} (hrest : Unbroken 0 rest) :
      Unbroken 0 (width.digit :: rest) :=
    .append (.of_word (List.forall_mem_singleton.mpr width.isWord_digit)) hrest
  induction type with
  | scalar base => exact .of_word base.isWord_of_mem_name
  | vector width component =>
      exact .append (.of_word (by decide)) (hdigit width (hcomponent component))
  | matrix columns rows component =>
      refine .append (.of_word (by decide)) (hdigit columns (.cons (by decide) (by decide) ?_))
      exact hdigit rows (hcomponent component)
  | array element count ih =>
      have hcount : Unbroken 1 (countText count) := by
        cases count with
        | none => exact .nil
        | some count =>
            refine .cons (by decide) (Or.inr le_rfl) (.cons (by decide) (by decide) ?_)
            exact .of_word fun c hc => isWord_of_isDigit (Text.isDigit_of_mem_ofNat hc)
      have harguments : Unbroken 1 (element.text spelling ++ countText count) :=
        (ih.mono (by decide)).append hcount
      have hname : Unbroken 0 ['a', 'r', 'r', 'a', 'y'] := .of_word (by decide)
      have hwhole := hname.append (harguments.enclosed (by decide : ('<', '>') ∈ bracketPairs))
      rw [List.append_assoc] at hwhole
      exact hwhole
  | struct name => exact .of_word (hspelling name).identifier.isWord

/-! ## Reading fields -/

/-- Trimming takes off the white space around a text that has none at its ends. -/
theorem trim_between {before text after : Text} (hbefore : ∀ c ∈ before, isBlank c = true)
    (hafter : ∀ c ∈ after, isBlank c = true) (hfirst : ∀ c ∈ text.head?, isBlank c = false)
    (hlast : ∀ c ∈ text.getLast?, isBlank c = false) :
    Text.trim (before ++ (text ++ after)) = text := by
  rw [trim_blank_append hbefore]
  rcases List.eq_nil_or_concat' text with rfl | ⟨front, c, rfl⟩
  · rw [List.nil_append, ← List.append_nil after, trim_blank_append hafter]
    rfl
  · have hc : isBlank c = false := hlast c (by simp)
    have hfront : Text.trimLeft front = front := by
      cases front with
      | nil => rfl
      | cons d front => exact List.dropWhile_cons_of_neg (by simp [hfirst d rfl])
    rw [List.append_assoc, List.singleton_append, trim_append_cons front hc, hfront,
      trimRight_of_blank hafter]

namespace Field

variable {ν : Type} {spelling : ν → Text} (hspelling : ∀ name, IsStructName (spelling name))
  (field : Field ν)

theorem head?_core : ∀ c ∈ (field.core spelling).head?, isWord c = true := by
  obtain ⟨c, rest, hname, -⟩ := field.isIdentifier
  intro d hd
  refine field.isIdentifier.isWord d ?_
  rw [core, hname] at hd
  cases hd
  rw [hname]
  exact List.mem_cons_self

theorem head?_text : ∀ c ∈ (field.text spelling).head?, isBlank c = false := by
  cases hattributes : field.attributes with
  | nil =>
      intro c hc
      rw [text, hattributes] at hc
      exact isBlank_eq_false_of_isWord (field.head?_core c hc)
  | cons given rest =>
      intro c hc
      rw [text, hattributes] at hc
      cases hc
      decide

theorem core_ne_nil : field.core spelling ≠ [] :=
  List.append_ne_nil_of_left_ne_nil field.isIdentifier.ne_nil _

theorem text_ne_nil : field.text spelling ≠ [] := by
  rw [text, rowText_eq_append]
  exact List.append_ne_nil_of_right_ne_nil _ field.core_ne_nil

include hspelling

theorem getLast?_core : ∀ c ∈ (field.core spelling).getLast?, isBlank c = false := by
  intro c hc
  refine field.type.isBlank_eq_false_of_getLast? hspelling c ?_
  rwa [core, List.append_cons, List.append_cons,
    List.getLast?_append_of_ne_nil _ (field.type.text_ne_nil hspelling)] at hc

theorem getLast?_text : ∀ c ∈ (field.text spelling).getLast?, isBlank c = false := by
  rw [text, rowText_eq_append, List.getLast?_append_of_ne_nil _ field.core_ne_nil]
  exact field.getLast?_core hspelling

theorem isRow : IsRow (field.attributes.map fun given => some given.decorator)
    (field.core spelling) where
  written := by
    intro decorator hmem
    obtain ⟨given, -, heq⟩ := List.mem_map.mp hmem
    cases heq
    exact given.isWritten
  free := by
    have hname : '@' ∉ field.name := fun hmem =>
      absurd (field.isIdentifier.isWord _ hmem) (by decide)
    rw [core, List.mem_append, List.mem_cons, List.mem_cons]
    exact not_or.mpr ⟨hname, not_or.mpr ⟨by decide, not_or.mpr ⟨by decide,
      field.type.at_not_mem_text hspelling⟩⟩⟩
  starts := by
    intro c hc
    have hword := field.head?_core c hc
    refine ⟨Bool.eq_false_iff.mpr fun hgap => ?_, ?_⟩
    · rw [isWord_eq_false_of_isBlank (isBlank_of_isGap hgap)] at hword
      cases hword
    · rintro rfl
      exact absurd hword (by decide)

theorem unbroken_text : Unbroken 0 (field.text spelling) := by
  have hcore : Unbroken 0 (field.core spelling) :=
    .append (.of_word field.isIdentifier.isWord) (.cons (by decide) (by decide)
      (.cons (by decide) (by decide) (field.type.unbroken_text hspelling)))
  rw [text]
  generalize field.attributes = attributes
  induction attributes with
  | nil => exact hcore
  | cons given rest ih => exact given.unbroken_text.append (.cons (by decide) (by decide) ih)

theorem read_core : Reader.whole structField (field.core spelling)
    = some (field.name, field.type.text spelling) := by
  have hname : Reader.identifier (field.core spelling)
      = some (field.name, ':' :: ' ' :: field.type.text spelling) :=
    Reader.identifier_eq_some_iff.mpr ⟨field.isIdentifier, rfl, by simp; decide⟩
  have hbefore : Reader.blanks (':' :: ' ' :: field.type.text spelling)
      = some ((), ':' :: ' ' :: field.type.text spelling) :=
    Reader.blanks_eq_some_iff.mpr ⟨[], rfl, by simp, by simp; decide⟩
  have hcolon : Reader.symbol ':' (':' :: ' ' :: field.type.text spelling)
      = some ((), ' ' :: field.type.text spelling) := Reader.symbol_eq_some_iff.mpr rfl
  have hbehind : Reader.blanks (' ' :: field.type.text spelling)
      = some ((), field.type.text spelling) :=
    Reader.blanks_eq_some_iff.mpr
      ⟨[' '], rfl, by decide, field.type.isBlank_eq_false_of_head? hspelling⟩
  have htype : Reader.run1 (fun _ => true) (field.type.text spelling)
      = some (field.type.text spelling, []) :=
    Reader.run1_eq_some_iff.mpr ⟨⟨(List.append_nil _).symm, fun _ _ => rfl, by simp⟩,
      field.type.text_ne_nil hspelling⟩
  refine Reader.whole_eq_some_iff.mpr ?_
  rw [structField, Reader.bind_of_some hname, Reader.bind_of_some hbefore,
    Reader.bind_of_some hcolon, Reader.bind_of_some hbehind, Reader.bind_of_some htype,
    field.type.collapse_text hspelling]
  rfl

/-- A field is read without its attributes. -/
theorem read_text : Reader.whole structField
    (Text.trim (removeDecorators (fun _ => true) (field.text spelling)))
      = some (field.name, field.type.text spelling) := by
  have hcleared : removeDecorators (fun _ => true) (field.text spelling)
      = List.replicate field.attributes.length ' ' ++ field.core spelling := by
    rw [text, removeDecorators_rowText (field.isRow hspelling)]
    generalize field.attributes = attributes
    induction attributes with
    | nil => rfl
    | cons given rest ih => exact congrArg (' ' :: ·) ih
  have htrim : Text.trim (List.replicate field.attributes.length ' '
      ++ (field.core spelling ++ [])) = field.core spelling := by
    refine trim_between (fun c hc => ?_) (by simp) ?_ (field.getLast?_core hspelling)
    · rw [List.eq_of_mem_replicate hc]
      decide
    · exact fun c hc => isBlank_eq_false_of_isWord (field.head?_core c hc)
  rw [List.append_nil] at htrim
  rw [hcleared, htrim, field.read_core hspelling]

end Field

/-! ## Reading bodies -/

/-- The types of a body's fields stand in it. -/
theorem length_text_le_of_lists {ν : Type} {spelling : ν → Text} {fields : List (Field ν)}
    {body : Text} (h : Lists spelling fields body) {field : Field ν} (hfield : field ∈ fields) :
    (field.type.text spelling).length ≤ body.length := by
  have htext (other : Field ν) :
      (other.type.text spelling).length ≤ (other.text spelling).length := by
    rw [Field.text, rowText_eq_append, Field.core]
    simp only [List.length_append, List.length_cons]
    omega
  induction h with
  | nil => cases hfield
  | last _ _ other =>
      obtain rfl := List.mem_singleton.mp hfield
      have := htext field
      simp only [List.length_append]
      omega
  | cons _ _ _ other _ ih =>
      simp only [List.length_append, List.length_cons]
      rcases List.mem_cons.mp hfield with rfl | hfield
      · have := htext field
        omega
      · have := ih hfield
        omega

section Body

variable {ν : Type} {spelling : ν → Text} (hspelling : ∀ name, IsStructName (spelling name))
  {fields : List (Field ν)} {body : Text}

include hspelling

theorem splitTopLevel_of_lists (h : Lists spelling fields body) :
    splitTopLevel [',', ';'] true body = fields.map (Field.text spelling) := by
  have hsplit (text : Text) : splitTopLevel [',', ';'] true text
      = dropEmptyLast ((bodyPieces 0 text).map Text.trim) := rfl
  have hwhole {before after : Text} (hbefore : ∀ c ∈ before, isBlank c = true)
      (hafter : ∀ c ∈ after, isBlank c = true) (field : Field ν) :
      Unbroken 0 (before ++ (field.text spelling ++ after)) :=
    .append (.of_blank hbefore) (.append (field.unbroken_text hspelling) (.of_blank hafter))
  have htrim {before after : Text} (hbefore : ∀ c ∈ before, isBlank c = true)
      (hafter : ∀ c ∈ after, isBlank c = true) (field : Field ν) :
      Text.trim (before ++ (field.text spelling ++ after)) = field.text spelling :=
    trim_between hbefore hafter field.head?_text (field.getLast?_text hspelling)
  induction h with
  | @nil blanks hblanks =>
      rw [hsplit, (Unbroken.of_blank hblanks).bodyPieces_eq, List.map_singleton, Text.trim,
        Text.trimLeft, List.dropWhile_eq_nil_iff.mpr hblanks]
      rfl
  | @last before after hbefore hafter field =>
      have hne : (field.text spelling).isEmpty = false := by
        simpa using field.text_ne_nil
      rw [hsplit, (hwhole hbefore hafter field).bodyPieces_eq, List.map_singleton,
        htrim hbefore hafter field, dropEmptyLast, hne]
      rfl
  | @cons before after rest separator fields hbefore hafter hseparator field _ ih =>
      have hassoc : before ++ (field.text spelling ++ (after ++ separator :: rest))
          = before ++ (field.text spelling ++ after) ++ separator :: rest := by
        simp only [List.append_assoc]
      have hrest : (bodyPieces 0 rest).map Text.trim ≠ [] := by
        rw [Ne, List.map_eq_nil_iff]
        exact topLevelPieces_ne_nil 0 rest
      rw [hsplit, hassoc, (hwhole hbefore hafter field).bodyPieces_append_separator hseparator,
        List.map_cons, htrim hbefore hafter field, ← List.singleton_append,
        dropEmptyLast_append _ hrest, ← hsplit, ih, List.map_cons]
      rfl

/-- The fields of a body are read back with their types. -/
theorem entries_structFields_of_lists (h : Lists spelling fields body)
    (hdistinct : (fields.map (·.name)).Nodup) :
    (structFields body).entries
      = fields.map fun field => (field.name, field.type.text spelling) := by
  have hread : (fields.map (Field.text spelling)).filterMap (fun piece =>
      Reader.whole structField (Text.trim (removeDecorators (fun _ => true) piece)))
        = fields.map fun field => (field.name, field.type.text spelling) := by
    rw [List.filterMap_map, ← List.filterMap_eq_map]
    refine List.filterMap_congr fun field _ => ?_
    exact field.read_text hspelling
  rw [structFields, splitTopLevel_of_lists hspelling h, hread]
  refine Table.entries_ofList ?_
  rwa [List.map_map]

theorem values_structFields_of_lists (h : Lists spelling fields body)
    (hdistinct : (fields.map (·.name)).Nodup) :
    (structFields body).values = fields.map fun field => field.type.text spelling := by
  rw [Table.values, entries_structFields_of_lists hspelling h hdistinct, List.map_map]
  rfl

end Body

end ShaderMarkup
