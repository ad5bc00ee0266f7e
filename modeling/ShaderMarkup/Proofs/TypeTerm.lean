import ShaderMarkup.Layout.Shape
import ShaderMarkup.Proofs.Character
import ShaderMarkup.Proofs.Conservation
import ShaderMarkup.Proofs.Numeral

/-!
# Types as terms

The text of a type is taken apart from the outside, one reader after the other.  Here types are
terms: scalars, vectors and matrices in their long and their short form, arrays with a count or
without, and structs.  `TypeTerm.text` writes a term, and `TypeShape.ofText_text` says that reading
its text yields the outermost form and the texts of the parts.

The structs of a term are named by the elements of a type `ν`, so the terms over `Empty` are those
that are built in.  A struct must not be spelled like one of them (`IsStructName`), since builtin
types are read first.

An array's count is what follows its last comma, and an element type may hold commas of its own.
They do no harm, since a type with a comma in it ends with an angle bracket (`TypeTerm.text_ends`).
-/

namespace ShaderMarkup

/-! ## Terms -/

/-- The number of components along one axis of a vector or a matrix. -/
inductive Width where
  | two
  | three
  | four

namespace Width

def count : Width → Nat
  | .two => 2
  | .three => 3
  | .four => 4

def digit : Width → Char
  | .two => '2'
  | .three => '3'
  | .four => '4'

end Width

/-- A letter behind the short name of a vector or a matrix. -/
inductive Suffix where
  | f
  | i
  | u
  | h

namespace Suffix

def letter : Suffix → Char
  | .f => 'f'
  | .i => 'i'
  | .u => 'u'
  | .h => 'h'

/-- The scalar that the letter stands for. -/
def scalar : Suffix → Scalar
  | .f => .f32
  | .i => .i32
  | .u => .u32
  | .h => .f16

end Suffix

/-- The components of a vector or a matrix: a scalar by name, or by one of the given letters. -/
inductive Component (letters : List Suffix) where
  | long (base : Scalar)
  | short (suffix : Suffix) (h : suffix ∈ letters)

namespace Component

variable {letters : List Suffix}

def scalar : Component letters → Scalar
  | .long base => base
  | .short suffix _ => suffix.scalar

def text : Component letters → Text
  | .long base => '<' :: (base.name ++ ['>'])
  | .short suffix _ => [suffix.letter]

end Component

/-- A type over structs that are named by the elements of `ν`. -/
inductive TypeTerm (ν : Type) where
  | scalar (base : Scalar)
  | vector (width : Width) (component : Component [.f, .i, .u, .h])
  | matrix (columns rows : Width) (component : Component [.f, .h])
  | array (element : TypeTerm ν) (count : Option Nat)
  | struct (name : ν)

namespace TypeTerm

variable {ν : Type}

/-- The count of an array as it follows the element type. -/
def countText : Option Nat → Text
  | none => []
  | some count => ',' :: ' ' :: Text.ofNat count

/-- The text of a type, with the names of the structs as they are spelled. -/
def text (spelling : ν → Text) : TypeTerm ν → Text
  | .scalar base => base.name
  | .vector width component => ['v', 'e', 'c'] ++ width.digit :: component.text
  | .matrix columns rows component =>
      ['m', 'a', 't'] ++ columns.digit :: 'x' :: rows.digit :: component.text
  | .array element count =>
      ['a', 'r', 'r', 'a', 'y', '<'] ++ (element.text spelling ++ (countText count ++ ['>']))
  | .struct name => spelling name

/-- The outermost form of a type. -/
def shape (spelling : ν → Text) : TypeTerm ν → TypeShape
  | .scalar base => .scalar base
  | .vector width component => .vector width.count component.scalar.name
  | .matrix columns rows component =>
      .matrix columns.count rows.count component.scalar.name
  | .array element count => .array (element.text spelling) (count.map Text.ofNat)
  | .struct name => .named (spelling name)

def isArray : TypeTerm ν → Bool
  | .array _ _ => true
  | _ => false

/-- What holds of all types that are no arrays, and of an array if it holds of its elements, holds
of all types. -/
@[elab_as_elim]
theorem arrayInduction {motive : TypeTerm ν → Prop}
    (flat : ∀ type : TypeTerm ν, type.isArray = false → motive type)
    (array : ∀ element count, motive element → motive (.array element count))
    (type : TypeTerm ν) : motive type := by
  induction type with
  | array element count ih => exact array element count ih
  | scalar | vector | matrix | struct => exact flat _ rfl

end TypeTerm

/-- A name that a struct can be found by: an identifier that is not the text of a builtin type. -/
structure IsStructName (name : Text) : Prop where
  identifier : Reader.IsIdentifier name
  notBuiltin : ∀ type : TypeTerm Empty, type.text Empty.elim ≠ name

/-! ## White space -/

theorem words_of_solid {text : Text} (hne : text ≠ []) (h : ∀ c ∈ text, isBlank c = false) :
    Text.words text = [text] := by
  induction text with
  | nil => exact absurd rfl hne
  | cons c rest ih =>
      rw [List.forall_mem_cons] at h
      cases rest with
      | nil => simp [Text.words, h.1]
      | cons next rest =>
          rw [Text.words.eq_def]
          simp [h.1, h.2 next List.mem_cons_self, ih (List.cons_ne_nil next rest) h.2]

theorem collapse_of_solid {text : Text} (h : ∀ c ∈ text, isBlank c = false) :
    Text.collapse text = text := by
  by_cases hne : text = []
  · rw [hne]
    rfl
  · rw [Text.collapse, words_of_solid hne h, List.intercalate_singleton]

/-- A single space in front of a word stays. -/
theorem collapse_append_space {left right : Text} (hleft : Text.collapse left = left)
    (hne : left ≠ []) (hright : right ≠ []) (hsolid : ∀ c ∈ right, isBlank c = false) :
    Text.collapse (left ++ ' ' :: right) = left ++ ' ' :: right := by
  have hwords : Text.words left ≠ [] := by
    intro hnil
    rw [Text.collapse, hnil] at hleft
    exact hne hleft.symm
  have hjoin : ∀ {words : List Text}, words ≠ [] →
      [' '].intercalate (words ++ [right]) = [' '].intercalate words ++ ' ' :: right := by
    intro words hwords
    induction words with
    | nil => exact absurd rfl hwords
    | cons word words ih =>
        cases words with
        | nil => simp [List.intercalate]
        | cons next words =>
            rw [List.cons_append, List.cons_append, List.intercalate_cons_cons,
              ← List.cons_append, ih (List.cons_ne_nil next words), List.intercalate_cons_cons]
            simp
  rw [Text.collapse, words_append_blank_cons (by decide), words_of_solid hright hsolid,
    hjoin hwords, ← Text.collapse, hleft]

/-! ## The characters of a type -/

theorem Scalar.isWord_of_mem_name (base : Scalar) : ∀ c ∈ base.name, isWord c = true := by
  cases base <;> decide

theorem Scalar.name_ne_nil (base : Scalar) : base.name ≠ [] := by
  cases base <;> decide

theorem Width.isWord_digit (width : Width) : isWord width.digit = true := by
  cases width <;> decide

theorem Suffix.isWord_letter (suffix : Suffix) : isWord suffix.letter = true := by
  cases suffix <;> decide

/-- The characters of a type other than an array. -/
def IsTypeCharacter (c : Char) : Prop :=
  isWord c = true ∨ c = '<' ∨ c = '>'

instance : DecidablePred IsTypeCharacter := fun c =>
  inferInstanceAs (Decidable (isWord c = true ∨ c = '<' ∨ c = '>'))

theorem IsTypeCharacter.isBlank_eq_false {c : Char} (h : IsTypeCharacter c) :
    isBlank c = false := by
  rcases h with h | rfl | rfl
  · exact isBlank_eq_false_of_isWord h
  · decide
  · decide

theorem Component.isTypeCharacter {letters : List Suffix} (component : Component letters) :
    ∀ c ∈ component.text, IsTypeCharacter c := by
  cases component with
  | long base =>
      intro c hc
      simp only [text, List.mem_cons, List.mem_append, List.not_mem_nil, or_false] at hc
      rcases hc with rfl | hc | rfl
      · exact Or.inr (Or.inl rfl)
      · exact Or.inl (base.isWord_of_mem_name c hc)
      · exact Or.inr (Or.inr rfl)
  | short suffix h =>
      intro c hc
      obtain rfl := List.mem_singleton.mp hc
      exact Or.inl suffix.isWord_letter

namespace TypeTerm

variable {ν : Type} {spelling : ν → Text} (hspelling : ∀ name, IsStructName (spelling name))

include hspelling

theorem text_ne_nil (type : TypeTerm ν) : type.text spelling ≠ [] := by
  cases type with
  | scalar base => exact base.name_ne_nil
  | struct name => exact (hspelling name).identifier.ne_nil
  | vector | matrix | array => exact List.cons_ne_nil _ _

/-- Only arrays hold commas and spaces. -/
theorem isTypeCharacter_of_mem_text {type : TypeTerm ν} (h : type.isArray = false) :
    ∀ c ∈ type.text spelling, IsTypeCharacter c := by
  have hdigit (width : Width) : IsTypeCharacter width.digit := Or.inl width.isWord_digit
  have hword : ∀ text : Text, (∀ c ∈ text, isWord c = true) → ∀ c ∈ text, IsTypeCharacter c :=
    fun text htext c hc => Or.inl (htext c hc)
  cases type with
  | scalar base => exact hword _ base.isWord_of_mem_name
  | vector width component =>
      refine List.forall_mem_append.mpr ⟨hword _ (by decide), ?_⟩
      rw [List.forall_mem_cons]
      exact ⟨hdigit width, component.isTypeCharacter⟩
  | matrix columns rows component =>
      refine List.forall_mem_append.mpr ⟨hword _ (by decide), ?_⟩
      rw [List.forall_mem_cons, List.forall_mem_cons, List.forall_mem_cons]
      exact ⟨hdigit columns, Or.inl (by decide), hdigit rows, component.isTypeCharacter⟩
  | array element count => cases h
  | struct name => exact hword _ (hspelling name).identifier.isWord

/-- The white space in a type is single spaces.  What stands around the type must hold none. -/
theorem collapse_around_text (type : TypeTerm ν) {before after : Text}
    (hbefore : ∀ c ∈ before, isBlank c = false) (hafter : ∀ c ∈ after, isBlank c = false) :
    Text.collapse (before ++ (type.text spelling ++ after))
      = before ++ (type.text spelling ++ after) := by
  induction type using arrayInduction generalizing before after with
  | flat type hflat =>
      refine collapse_of_solid ?_
      rw [List.forall_mem_append, List.forall_mem_append]
      exact ⟨hbefore, fun c hc =>
        (isTypeCharacter_of_mem_text hspelling hflat c hc).isBlank_eq_false, hafter⟩
  | array element count ih =>
      have hopen : ∀ c ∈ before ++ ['a', 'r', 'r', 'a', 'y', '<'], isBlank c = false :=
        List.forall_mem_append.mpr ⟨hbefore, by decide⟩
      cases count with
      | none =>
          have hclose : ∀ c ∈ '>' :: after, isBlank c = false :=
            List.forall_mem_cons.mpr ⟨by decide, hafter⟩
          have hinner := ih hopen hclose
          rw [List.append_assoc] at hinner
          rw [text, countText, List.nil_append, List.append_assoc, List.append_assoc]
          exact hinner
      | some count =>
          -- The space in front of the count is the last one.
          have hinner := ih hopen (List.forall_mem_singleton.mpr (by decide : isBlank ',' = false))
          have hcount : ∀ c ∈ Text.ofNat count ++ '>' :: after, isBlank c = false := by
            refine List.forall_mem_append.mpr ⟨fun c hc => ?_, ?_⟩
            · exact isBlank_eq_false_of_isWord (isWord_of_isDigit (Text.isDigit_of_mem_ofNat hc))
            · exact List.forall_mem_cons.mpr ⟨by decide, hafter⟩
          have hspace := collapse_append_space hinner
            (by simp) (List.append_ne_nil_of_left_ne_nil (Text.ofNat_ne_nil count) _) hcount
          simpa [text, countText] using hspace

theorem collapse_text (type : TypeTerm ν) :
    Text.collapse (type.text spelling) = type.text spelling := by
  have h := @collapse_around_text _ _ hspelling type [] [] (by simp) (by simp)
  rwa [List.nil_append, List.append_nil] at h

/-- A type with a comma in it is an array and ends with its bracket. -/
theorem text_ends (type : TypeTerm ν) :
    (∀ c ∈ type.text spelling, IsTypeCharacter c) ∨
      (type.text spelling).getLast? = some '>' := by
  cases harray : type.isArray with
  | false => exact Or.inl (isTypeCharacter_of_mem_text hspelling harray)
  | true =>
      cases type with
      | array element count =>
          refine Or.inr ?_
          rw [text, ← List.append_assoc, ← List.append_assoc, List.getLast?_concat]
      | scalar | vector | matrix | struct => cases harray

theorem isBlank_eq_false_of_getLast? (type : TypeTerm ν) :
    ∀ c ∈ (type.text spelling).getLast?, isBlank c = false := by
  intro c hc
  rcases type.text_ends hspelling with hall | hlast
  · exact (hall c (List.mem_of_getLast? hc)).isBlank_eq_false
  · rw [hlast, Option.mem_some_iff] at hc
    subst hc
    decide

theorem isBlank_eq_false_of_head? (type : TypeTerm ν) :
    ∀ c ∈ (type.text spelling).head?, isBlank c = false := by
  cases harray : type.isArray with
  | false =>
      intro c hc
      have hmem := List.mem_of_mem_head? hc
      exact (isTypeCharacter_of_mem_text hspelling harray c hmem).isBlank_eq_false
  | true =>
      cases type with
      | array element count => exact fun c hc => by cases hc; decide
      | scalar | vector | matrix | struct => cases harray

theorem at_not_mem_text (type : TypeTerm ν) : '@' ∉ type.text spelling := by
  induction type using arrayInduction with
  | flat type hflat =>
      intro hmem
      exact absurd (isTypeCharacter_of_mem_text hspelling hflat _ hmem) (by decide)
  | array element count ih =>
      have hcount : '@' ∉ countText count := by
        cases count with
        | none => exact List.not_mem_nil
        | some count =>
            intro hmem
            simp only [countText, List.mem_cons] at hmem
            rcases hmem with h | h | h
            · cases h
            · cases h
            · exact absurd (Text.isDigit_of_mem_ofNat h) (by decide)
      simp only [text, List.mem_append, not_or]
      exact ⟨by decide, ih, hcount, by decide⟩

end TypeTerm

/-! ## Reading -/

namespace TypeShape

theorem readExtent_eq_some_iff {text rest : Text} {count : Nat} :
    readExtent text = some (count, rest) ↔
      ∃ width : Width, text = width.digit :: rest ∧ count = width.count := by
  constructor
  · intro h
    obtain ⟨digit, middle, hone, hpure⟩ := Reader.bind_eq_some_iff.mp h
    obtain ⟨rfl, hdigit⟩ := Reader.one_eq_some_iff.mp hone
    cases hpure
    simp only [Bool.or_eq_true, beq_iff_eq] at hdigit
    rcases hdigit with (rfl | rfl) | rfl
    · exact ⟨.two, rfl, rfl⟩
    · exact ⟨.three, rfl, rfl⟩
    · exact ⟨.four, rfl, rfl⟩
  · rintro ⟨width, rfl, rfl⟩
    cases width <;> rfl

theorem readScalarLetter_eq_some_iff {letters : List Suffix} {text name rest : Text} :
    readScalarLetter (letters.map Suffix.letter) text = some (name, rest) ↔
      ∃ suffix ∈ letters, text = suffix.letter :: rest ∧ name = suffix.scalar.name := by
  constructor
  · intro h
    cases text with
    | nil => cases h
    | cons c tail =>
        rw [readScalarLetter] at h
        split at h
        next hmem =>
          obtain ⟨suffix, hsuffix, rfl⟩ := List.mem_map.mp hmem
          refine ⟨suffix, hsuffix, ?_⟩
          cases suffix <;> cases h <;> exact ⟨rfl, rfl⟩
        next => cases h
  · rintro ⟨suffix, hsuffix, rfl, rfl⟩
    rw [readScalarLetter, if_pos (List.mem_map_of_mem hsuffix)]
    cases suffix <;> rfl

theorem mem_of_readScalarArgument {text name rest : Text}
    (h : readScalarArgument text = some (name, rest)) : '<' ∈ text := by
  obtain ⟨_, middle, hblanks, h⟩ := Reader.bind_eq_some_iff.mp h
  obtain ⟨_, _, hsymbol, -⟩ := Reader.bind_eq_some_iff.mp h
  obtain ⟨gap, rfl, -⟩ := Reader.blanks_eq_some_iff.mp hblanks
  rw [Reader.symbol_eq_some_iff.mp hsymbol]
  simp

/-- The scalar behind the name of a vector or a matrix. -/
theorem readComponent_text {letters : List Suffix} (component : Component letters) :
    Reader.orElse readScalarArgument (readScalarLetter (letters.map Suffix.letter)) component.text
      = some (component.scalar.name, []) := by
  cases component with
  | long base =>
      refine Reader.orElse_eq_some_iff.mpr (Or.inl ?_)
      cases base <;> rfl
  | short suffix h =>
      refine Reader.orElse_eq_some_iff.mpr (Or.inr ⟨?_, ?_⟩)
      · cases suffix <;> rfl
      · exact readScalarLetter_eq_some_iff.mpr ⟨suffix, h, rfl, rfl⟩

/-- What is read behind the name of a vector or a matrix is a component, or holds an angle
bracket. -/
theorem exists_component_of_read {letters : List Suffix} {text name : Text} (h : Reader.orElse
      readScalarArgument (readScalarLetter (letters.map Suffix.letter)) text = some (name, [])) :
    '<' ∈ text ∨ ∃ component : Component letters, text = component.text := by
  rcases Reader.orElse_eq_some_iff.mp h with h | ⟨-, h⟩
  · exact Or.inl (mem_of_readScalarArgument h)
  · obtain ⟨suffix, hsuffix, rfl, -⟩ := readScalarLetter_eq_some_iff.mp h
    exact Or.inr ⟨.short suffix hsuffix, rfl⟩

/-! ### Vectors and matrices -/

theorem whole_readVector (width : Width) (component : Component [.f, .i, .u, .h]) :
    Reader.whole readVector (['v', 'e', 'c'] ++ width.digit :: component.text)
      = some (.vector width.count component.scalar.name) := by
  have hword : Reader.word "vec" (['v', 'e', 'c'] ++ width.digit :: component.text)
      = some ((), width.digit :: component.text) := Reader.word_eq_some_iff.mpr rfl
  refine Reader.whole_eq_some_iff.mpr ?_
  rw [readVector, Reader.bind_of_some hword,
    Reader.bind_of_some (readExtent_eq_some_iff.mpr ⟨width, rfl, rfl⟩)]
  exact Reader.bind_of_some (readComponent_text component)

theorem whole_readMatrix (columns rows : Width) (component : Component [.f, .h]) :
    Reader.whole readMatrix
        (['m', 'a', 't'] ++ columns.digit :: 'x' :: rows.digit :: component.text)
      = some (.matrix columns.count rows.count component.scalar.name) := by
  have hword : Reader.word "mat"
      (['m', 'a', 't'] ++ columns.digit :: 'x' :: rows.digit :: component.text)
        = some ((), columns.digit :: 'x' :: rows.digit :: component.text) :=
    Reader.word_eq_some_iff.mpr rfl
  have hcross : Reader.symbol 'x' ('x' :: rows.digit :: component.text)
      = some ((), rows.digit :: component.text) := Reader.symbol_eq_some_iff.mpr rfl
  refine Reader.whole_eq_some_iff.mpr ?_
  rw [readMatrix, Reader.bind_of_some hword,
    Reader.bind_of_some (readExtent_eq_some_iff.mpr ⟨columns, rfl, rfl⟩),
    Reader.bind_of_some hcross,
    Reader.bind_of_some (readExtent_eq_some_iff.mpr ⟨rows, rfl, rfl⟩)]
  exact Reader.bind_of_some (readComponent_text component)

/-! ### Arrays -/

/-- The count is what follows the last comma. -/
theorem takeWhile_behind_comma (left : Text) {right : Text} (h : ',' ∉ right) :
    ((left ++ ',' :: right).reverse.takeWhile (· != ',')).reverse = right := by
  have hright : ∀ c ∈ right.reverse, (c != ',') = true := by
    intro c hc
    simpa using ne_of_mem_of_not_mem (List.mem_reverse.mp hc) h
  rw [List.reverse_append, List.reverse_cons, List.append_assoc,
    List.takeWhile_append_of_pos hright, List.singleton_append,
    List.takeWhile_cons_of_neg (by decide), List.append_nil, List.reverse_reverse]

theorem whole_readCount_ofNat (count : Nat) :
    Reader.whole readCount (' ' :: Text.ofNat count) = some (Text.ofNat count) := by
  have hdecimal : ∀ c ∈ Text.ofNat count, isDecimal c = true :=
    fun c hc => isDecimal_of_isDigit (Text.isDigit_of_mem_ofNat hc)
  have hblanks : Reader.blanks (' ' :: Text.ofNat count) = some ((), Text.ofNat count) :=
    Reader.blanks_eq_some_iff.mpr ⟨[' '], rfl, by decide, fun c hc =>
      isBlank_eq_false_of_isDecimal (hdecimal c (List.mem_of_mem_head? hc))⟩
  have hdigits : Reader.run1 isDecimal (Text.ofNat count) = some (Text.ofNat count, []) :=
    Reader.run1_eq_some_iff.mpr
      ⟨⟨(List.append_nil _).symm, hdecimal, by simp⟩, Text.ofNat_ne_nil count⟩
  refine Reader.whole_eq_some_iff.mpr ?_
  rw [readCount, Reader.bind_of_some hblanks, Reader.bind_of_some hdigits]
  rfl

/-- A count holds no angle bracket. -/
theorem whole_readCount_eq_none {text : Text} (h : '>' ∈ text) :
    Reader.whole readCount text = none := by
  refine Option.eq_none_iff_forall_ne_some.mpr fun digits hread => ?_
  obtain ⟨_, _, hbefore, hread⟩ := Reader.bind_eq_some_iff.mp (Reader.whole_eq_some_iff.mp hread)
  obtain ⟨_, _, hdigits, hread⟩ := Reader.bind_eq_some_iff.mp hread
  obtain ⟨_, _, hafter, hread⟩ := Reader.bind_eq_some_iff.mp hread
  cases hread
  obtain ⟨before, rfl, hblank, -⟩ := Reader.blanks_eq_some_iff.mp hbefore
  obtain ⟨⟨rfl, hdecimal, -⟩, -⟩ := Reader.run1_eq_some_iff.mp hdigits
  obtain ⟨after, rfl, hblank', -⟩ := Reader.blanks_eq_some_iff.mp hafter
  rcases List.mem_append.mp h with h | h
  · exact absurd (hblank _ h) (by decide)
  · rcases List.mem_append.mp h with h | h
    · exact absurd (hdecimal _ h) (by decide)
    · exact absurd (hblank' _ (by simpa using h)) (by decide)

theorem arrayArguments?_of_count {element : Text} (hne : element ≠ []) (count : Nat) :
    arrayArguments? (element ++ TypeTerm.countText (some count))
      = some (.array element (some (Text.ofNat count))) := by
  have hcomma : ',' ∉ ' ' :: Text.ofNat count := by
    intro hmem
    rcases List.mem_cons.mp hmem with h | h
    · cases h
    · exact absurd (Text.isDigit_of_mem_ofNat h) (by decide)
  have htail : ((element ++ ',' :: ' ' :: Text.ofNat count).reverse.takeWhile (· != ',')).reverse
      = ' ' :: Text.ofNat count := takeWhile_behind_comma element hcomma
  have helement : (element ++ ',' :: ' ' :: Text.ofNat count).take
      ((element ++ ',' :: ' ' :: Text.ofNat count).length - (' ' :: Text.ofNat count).length - 1)
        = element := by
    refine List.take_left' ?_
    simp only [List.length_append, List.length_cons]
    omega
  obtain ⟨c, rest, rfl⟩ := List.exists_cons_of_ne_nil hne
  simp only [arrayArguments?, TypeTerm.countText, htail, helement, whole_readCount_ofNat]

theorem arrayArguments?_of_no_count {element : Text} (hne : element ≠ [])
    (h : ',' ∉ element ∨ element.getLast? = some '>') :
    arrayArguments? element = some (.array element none) := by
  have hwhole : element.isEmpty = false := by simpa using hne
  rcases h with h | h
  -- Without a comma nothing is left in front of the count.
  · have hall : ∀ c ∈ element.reverse, (c != ',') = true := by
      intro c hc
      simpa using ne_of_mem_of_not_mem (List.mem_reverse.mp hc) h
    have htail : (element.reverse.takeWhile (· != ',')).reverse = element := by
      rw [List.takeWhile_eq_self_iff.mpr hall, List.reverse_reverse]
    simp only [arrayArguments?, htail, Nat.sub_self, Nat.zero_sub, List.take_zero, hwhole]
    rfl
  -- Otherwise the last comma belongs to the element, and its bracket stands behind the comma.
  · obtain ⟨front, rfl⟩ := List.getLast?_eq_some_iff.mp h
    have hmem : '>' ∈ ((front ++ ['>']).reverse.takeWhile (· != ',')).reverse := by
      rw [List.reverse_append, List.reverse_singleton, List.singleton_append,
        List.takeWhile_cons_of_pos (by decide)]
      simp
    simp only [arrayArguments?, whole_readCount_eq_none hmem, hwhole]
    split
    next heq => cases heq
    next => rfl

theorem arrayArguments?_text {ν : Type} {spelling : ν → Text}
    (hspelling : ∀ name, IsStructName (spelling name)) (element : TypeTerm ν)
    (count : Option Nat) :
    arrayArguments? (element.text spelling ++ TypeTerm.countText count)
      = some (.array (element.text spelling) (count.map Text.ofNat)) := by
  cases count with
  | none =>
      rw [TypeTerm.countText, List.append_nil]
      exact arrayArguments?_of_no_count (element.text_ne_nil hspelling)
        ((element.text_ends hspelling).imp_left fun hall hmem =>
          absurd (hall _ hmem) (by decide))
  | some count => exact arrayArguments?_of_count (element.text_ne_nil hspelling) count

theorem whole_readArray {arguments : Text} {shape : TypeShape}
    (h : arrayArguments? arguments = some shape) :
    Reader.whole readArray (['a', 'r', 'r', 'a', 'y', '<'] ++ (arguments ++ ['>']))
      = some shape := by
  have hword : Reader.word "array" (['a', 'r', 'r', 'a', 'y', '<'] ++ (arguments ++ ['>']))
      = some ((), '<' :: (arguments ++ ['>'])) := Reader.word_eq_some_iff.mpr rfl
  have hblanks : Reader.blanks ('<' :: (arguments ++ ['>']))
      = some ((), '<' :: (arguments ++ ['>'])) :=
    Reader.blanks_eq_some_iff.mpr ⟨[], rfl, by simp, by simp; decide⟩
  have hopen : Reader.symbol '<' ('<' :: (arguments ++ ['>'])) = some ((), arguments ++ ['>']) :=
    Reader.symbol_eq_some_iff.mpr rfl
  refine Reader.whole_eq_some_iff.mpr ((Reader.bind_of_some hword).trans
    ((Reader.bind_of_some hblanks).trans ((Reader.bind_of_some hopen).trans ?_)))
  rw [List.getLast?_concat, if_pos rfl, List.dropLast_concat, h]
  rfl

/-! ### Structs -/

section Struct

variable {name : Text} (h : IsStructName name)

include h

theorem not_mem_of_isStructName {c : Char} (hc : isWord c = false) : c ∉ name := by
  intro hmem
  rw [h.identifier.isWord c hmem] at hc
  cases hc

theorem whole_readVector_eq_none : Reader.whole readVector name = none := by
  refine Option.eq_none_iff_forall_ne_some.mpr fun shape hread => ?_
  obtain ⟨_, _, hword, hread⟩ := Reader.bind_eq_some_iff.mp (Reader.whole_eq_some_iff.mp hread)
  obtain ⟨_, _, hwidth, hread⟩ := Reader.bind_eq_some_iff.mp hread
  obtain ⟨_, _, hcomponent, hread⟩ := Reader.bind_eq_some_iff.mp hread
  cases hread
  have hname := Reader.word_eq_some_iff.mp hword
  obtain ⟨width, rfl, -⟩ := readExtent_eq_some_iff.mp hwidth
  rcases @exists_component_of_read [.f, .i, .u, .h] _ _ hcomponent with
    hbracket | ⟨component, rfl⟩
  · refine not_mem_of_isStructName h (c := '<') (by decide) ?_
    rw [hname]
    simp [hbracket]
  · exact h.notBuiltin (.vector width component) hname.symm

theorem whole_readMatrix_eq_none : Reader.whole readMatrix name = none := by
  refine Option.eq_none_iff_forall_ne_some.mpr fun shape hread => ?_
  obtain ⟨_, _, hword, hread⟩ := Reader.bind_eq_some_iff.mp (Reader.whole_eq_some_iff.mp hread)
  obtain ⟨_, _, hcolumns, hread⟩ := Reader.bind_eq_some_iff.mp hread
  obtain ⟨_, _, hcross, hread⟩ := Reader.bind_eq_some_iff.mp hread
  obtain ⟨_, _, hrows, hread⟩ := Reader.bind_eq_some_iff.mp hread
  obtain ⟨_, _, hcomponent, hread⟩ := Reader.bind_eq_some_iff.mp hread
  cases hread
  have hname := Reader.word_eq_some_iff.mp hword
  obtain ⟨columns, rfl, -⟩ := readExtent_eq_some_iff.mp hcolumns
  obtain rfl := Reader.symbol_eq_some_iff.mp hcross
  obtain ⟨rows, rfl, -⟩ := readExtent_eq_some_iff.mp hrows
  rcases @exists_component_of_read [.f, .h] _ _ hcomponent with
    hbracket | ⟨component, rfl⟩
  · refine not_mem_of_isStructName h (c := '<') (by decide) ?_
    rw [hname]
    simp [hbracket]
  · exact h.notBuiltin (.matrix columns rows component) hname.symm

theorem whole_readArray_eq_none : Reader.whole readArray name = none := by
  refine Option.eq_none_iff_forall_ne_some.mpr fun shape hread => ?_
  obtain ⟨_, _, hword, hread⟩ := Reader.bind_eq_some_iff.mp (Reader.whole_eq_some_iff.mp hread)
  obtain ⟨_, _, hblanks, hread⟩ := Reader.bind_eq_some_iff.mp hread
  obtain ⟨_, _, hopen, -⟩ := Reader.bind_eq_some_iff.mp hread
  obtain ⟨gap, rfl, -⟩ := Reader.blanks_eq_some_iff.mp hblanks
  refine not_mem_of_isStructName h (c := '<') (by decide) ?_
  rw [Reader.word_eq_some_iff.mp hword, Reader.symbol_eq_some_iff.mp hopen]
  simp

theorem blockBody?_eq_none : blockBody? name = none := by
  have hhead : readBlockHead name = none := by
    refine Option.eq_none_iff_forall_ne_some.mpr fun ⟨_, rest⟩ hread => ?_
    obtain ⟨_, _, hword, hread⟩ := Reader.bind_eq_some_iff.mp hread
    obtain ⟨_, _, hblanks, -⟩ := Reader.bind_eq_some_iff.mp hread
    obtain ⟨gap, ⟨rfl, hgap, -⟩, hne⟩ := Reader.blanks1_eq_some_iff.mp hblanks
    obtain ⟨c, gap, rfl⟩ := List.exists_cons_of_ne_nil hne
    refine not_mem_of_isStructName h
      (isWord_eq_false_of_isBlank (hgap c List.mem_cons_self)) ?_
    rw [Reader.word_eq_some_iff.mp hword]
    simp
  rw [blockBody?, hhead]

theorem ofCollapsed_of_isStructName : ofCollapsed name = .named name := by
  have hscalar : Scalar.ofName? name = none := by
    refine Option.eq_none_iff_forall_ne_some.mpr fun base hbase => ?_
    exact h.notBuiltin (.scalar base) (Scalar.ofName?_eq_some_iff.mp hbase)
  simp only [ofCollapsed, hscalar, List.findSome?_cons, List.findSome?_nil,
    whole_readVector_eq_none h, whole_readMatrix_eq_none h, whole_readArray_eq_none h,
    blockBody?_eq_none h]

end Struct

/-- The names of scalars start with these letters only. -/
theorem ofName?_eq_none_of_head {c : Char} (hc : c ∉ ['f', 'i', 'u', 'b']) (rest : Text) :
    Scalar.ofName? (c :: rest) = none := by
  refine Option.eq_none_iff_forall_ne_some.mpr fun base hbase => hc ?_
  have hhead : base.name.head? = some c := by
    rw [Scalar.ofName?_eq_some_iff.mp hbase, List.head?_cons]
  cases base <;> cases hhead <;> decide

theorem ofCollapsed_of_read {text : Text} {shape : TypeShape}
    (hscalar : Scalar.ofName? text = none)
    (h : ((Reader.whole readVector text).or (Reader.whole readMatrix text)).or
      (Reader.whole readArray text) = some shape) :
    ofCollapsed text = shape := by
  have hread : [readVector, readMatrix, readArray].findSome? (Reader.whole · text)
      = some shape := by
    rw [← h]
    simp only [List.findSome?_cons, List.findSome?_nil]
    cases Reader.whole readVector text <;> cases Reader.whole readMatrix text <;>
      cases Reader.whole readArray text <;> rfl
  rw [ofCollapsed, hscalar]
  dsimp only
  rw [hread]

/-- Reading the text of a type yields its outermost form. -/
theorem ofText_text {ν : Type} {spelling : ν → Text}
    (hspelling : ∀ name, IsStructName (spelling name)) (type : TypeTerm ν) :
    ofText (type.text spelling) = type.shape spelling := by
  rw [ofText, type.collapse_text hspelling]
  cases type with
  | scalar base => cases base <;> rfl
  | vector width component =>
      refine ofCollapsed_of_read (ofName?_eq_none_of_head (by decide) _) ?_
      rw [TypeTerm.text, whole_readVector]
      rfl
  | matrix columns rows component =>
      refine ofCollapsed_of_read (ofName?_eq_none_of_head (by decide) _) ?_
      have hvector : Reader.whole readVector
          (['m', 'a', 't'] ++ columns.digit :: 'x' :: rows.digit :: component.text) = none := rfl
      rw [TypeTerm.text, hvector, whole_readMatrix]
      rfl
  | array element count =>
      refine ofCollapsed_of_read (ofName?_eq_none_of_head (by decide) _) ?_
      have hothers (arguments : Text) :
          (Reader.whole readVector (['a', 'r', 'r', 'a', 'y', '<'] ++ arguments)).or
            (Reader.whole readMatrix (['a', 'r', 'r', 'a', 'y', '<'] ++ arguments)) = none := rfl
      have hread := whole_readArray (arrayArguments?_text hspelling element count)
      rw [List.append_assoc] at hread
      rw [TypeTerm.text, hothers, hread]
      rfl
  | struct name => exact ofCollapsed_of_isStructName (hspelling name)

/-- A name that is read as the name of a struct is one. -/
theorem isStructName_of_ofText {name : Text} (hidentifier : Reader.IsIdentifier name)
    (h : ofText name = .named name) : IsStructName name := by
  refine ⟨hidentifier, fun type htext => ?_⟩
  have hshape := @ofText_text Empty Empty.elim (fun name => name.elim) type
  rw [htext, h] at hshape
  cases type with
  | struct name => exact name.elim
  | scalar | vector | matrix | array => cases hshape

end TypeShape

end ShaderMarkup
