import Mathlib.Algebra.BigOperators.Group.List.Basic
import Mathlib.Algebra.Ring.Nat
import Mathlib.Data.Fintype.EquivFin
import Mathlib.Logic.Relation
import ShaderMarkup.Proofs.Construction
import ShaderMarkup.Proofs.StructBody

/-!
# Sizes follow the structure of types

A library gives every struct its name and its fields.  Where no struct uses itself, directly or
through others, `Library.size` computes the size of a type by recursion over the type and the fields
of its structs.  `typeSize_text_eq_size` says that the size which is computed from texts is the
same: the type is written out, the structs are listed in bodies, and every text is read again on the
way.

The computation from texts goes only so deep.  The bound on its depth is enough, since an element
type is shorter than its array, and a struct that was entered is not entered again: the bodies that
can still be entered (`remaining` below) get fewer with every struct.

A count with more digits than an integer may be written with is not read, so the counts have to fit
(`TypeTerm.CountsFit`, `typeSize_of_long_count`).  The brackets of an attribute have to match, angle
brackets too: a shift such as `1<<4` opens two that hide the separators behind it (`shiftedBody`).
-/

namespace ShaderMarkup

variable {ν : Type}

/-! ## Libraries -/

/-- The struct that a type is made of, below all arrays. -/
def TypeTerm.struct? : TypeTerm ν → Option ν
  | .array element _ => element.struct?
  | .struct name => some name
  | _ => none

/-- A field of the one struct is made of the other. -/
def Uses (fields : ν → List (Field ν)) (user used : ν) : Prop :=
  ∃ field ∈ fields user, field.type.struct? = some used

/-- Structs with their names and fields.  No struct uses itself, not even through others. -/
structure Library (ν : Type) where
  spelling : ν → Text
  fields : ν → List (Field ν)
  isStructName : ∀ name, IsStructName (spelling name)
  spelling_injective : Function.Injective spelling
  distinct : ∀ name, ((fields name).map (·.name)).Nodup
  acyclic : ∀ name, ¬ Relation.TransGen (Uses fields) name name

namespace Library

/-- The table holds a body for every struct of the library that lists its fields. -/
def Describes (library : Library ν) (structs : StructTable) : Prop :=
  ∀ name, ∃ body, structs.find? (library.spelling name) = some body ∧
    Lists library.spelling (library.fields name) body

/-- A type that another one is directly made of. -/
inductive Part (library : Library ν) : TypeTerm ν → TypeTerm ν → Prop
  | element (element : TypeTerm ν) (count : Option Nat) :
      Part library element (.array element count)
  | field {name : ν} {field : Field ν} (h : field ∈ library.fields name) :
      Part library field.type (.struct name)

section WellFounded

variable (library : Library ν)

theorem wellFounded_uses [Finite ν] :
    WellFounded fun used user => Uses library.fields user used := by
  let reaches : ν → ν → Prop := fun used user => Relation.TransGen (Uses library.fields) user used
  have : IsTrans ν reaches := ⟨fun _ _ _ hab hbc => hbc.trans hab⟩
  have : Std.Irrefl reaches := ⟨library.acyclic⟩
  have hreaches : WellFounded reaches := Finite.wellFounded_of_trans_of_irrefl reaches
  exact Subrelation.wf (fun h => Relation.TransGen.single h) hreaches

theorem acc_part_of_struct? {type : TypeTerm ν}
    (h : ∀ name, type.struct? = some name → Acc library.Part (.struct name)) :
    Acc library.Part type := by
  induction type with
  | array element count ih =>
      refine ⟨_, fun part hpart => ?_⟩
      cases hpart
      exact ih h
  | struct name => exact h name rfl
  | scalar | vector | matrix => exact ⟨_, fun part hpart => by cases hpart⟩

theorem wellFounded_part [Finite ν] : WellFounded library.Part := by
  have hstruct (name : ν) : Acc library.Part (.struct name) := by
    induction name using library.wellFounded_uses.induction with
    | _ name ih =>
        refine ⟨_, fun part hpart => ?_⟩
        cases hpart with
        | @field _ field hfield =>
            exact library.acc_part_of_struct? fun used hused => ih used ⟨field, hfield, hused⟩
  exact ⟨fun type => library.acc_part_of_struct? fun name _ => hstruct name⟩

end WellFounded

/-- The size of a type: that of its components, added up. -/
def size [Finite ν] (library : Library ν) : TypeTerm ν → Nat
  | .scalar base => base.bytes
  | .vector width component => width.count * component.scalar.bytes
  | .matrix columns rows component => columns.count * rows.count * component.scalar.bytes
  | .array element count => count.getD 1 * library.size element
  | .struct name => ((library.fields name).attach.map fun field => library.size field.1.type).sum
termination_by type => library.wellFounded_part.wrap type
decreasing_by
  · exact .element element count
  · exact .field field.2

theorem size_struct [Finite ν] (library : Library ν) (name : ν) :
    library.size (.struct name)
      = ((library.fields name).map fun field => library.size field.type).sum := by
  rw [size]
  exact congrArg List.sum
    (@List.attach_map_val _ _ (library.fields name) fun field => library.size field.type)

end Library

/-! ## Counts -/

/-- The counts of a type have no more digits than are read. -/
def TypeTerm.CountsFit : TypeTerm ν → Prop
  | .array element count =>
      (∀ n ∈ count, (Text.ofNat n).length ≤ Text.maxDigits) ∧ element.CountsFit
  | _ => True

def Library.CountsFit (library : Library ν) : Prop :=
  ∀ name, ∀ field ∈ library.fields name, field.type.CountsFit

theorem elementCount_eq_ok {count : Option Nat}
    (h : ∀ n ∈ count, (Text.ofNat n).length ≤ Text.maxDigits) :
    elementCount (count.map Text.ofNat) = .ok (count.getD 1) := by
  cases count with
  | none => rfl
  | some n =>
      rw [Option.map_some, elementCount, if_neg (Nat.not_lt.mpr (h n rfl)), Text.natValue_ofNat,
        Option.getD_some]

theorem scalarSize_name (base : Scalar) : scalarSize base.name = .ok base.bytes := by
  rw [scalarSize, Scalar.ofName?_eq_some_iff.mpr rfl]

/-! ## Depth -/

/-- A struct that a type is made of, however deep. -/
def Library.Reaches (library : Library ν) (type : TypeTerm ν) (name : ν) : Prop :=
  ∃ first, type.struct? = some first ∧ Relation.ReflTransGen (Uses library.fields) first name

/-- What a field of a struct reaches, the struct reaches too, and it is another struct. -/
theorem Library.Reaches.of_field {library : Library ν} {name other : ν} {field : Field ν}
    (hfield : field ∈ library.fields name) (h : library.Reaches field.type other) :
    library.Reaches (.struct name) other ∧ other ≠ name := by
  obtain ⟨first, hfirst, hreaches⟩ := h
  have huses : Uses library.fields name first := ⟨field, hfield, hfirst⟩
  refine ⟨⟨name, rfl, .head huses hreaches⟩, ?_⟩
  rintro rfl
  exact library.acyclic other (.head' huses hreaches)

theorem totalSize_eq_ok {size : Text → Check Nat} {expected : Field ν → Nat}
    {text : Field ν → Text} {fields : List (Field ν)}
    (h : ∀ field ∈ fields, size (text field) = .ok (expected field)) :
    totalSize size (fields.map text) = .ok (fields.map expected).sum := by
  induction fields with
  | nil => rfl
  | cons field fields ih =>
      rw [List.forall_mem_cons] at h
      rw [List.map_cons, totalSize, h.1, bind_ok, ih h.2, bind_ok, List.map_cons, List.sum_cons]
      rfl

section Size

variable [Finite ν] {library : Library ν} {structs : StructTable}

/-- A depth is enough if it exceeds the length of the type together with the bodies that the type
may still lead into. -/
theorem typeSizeWithin_text (hstructs : library.Describes structs) (hcounts : library.CountsFit)
    {depth : Nat} {remaining : List (Text × Text)} {type : TypeTerm ν} (htype : type.CountsFit)
    (hremaining : ∀ name, library.Reaches type name → ∀ body,
      structs.find? (library.spelling name) = some body →
        (library.spelling name, body) ∈ remaining)
    (hdepth : (type.text library.spelling).length
      + (remaining.map fun entry => entry.2.length + 1).sum < depth) :
    typeSizeWithin structs depth (type.text library.spelling) = .ok (library.size type) := by
  induction depth generalizing remaining type with
  | zero => omega
  | succ depth ih =>
      rw [typeSizeWithin]
      dsimp only
      rw [TypeShape.ofText_text library.isStructName]
      cases type with
      | scalar base =>
          rw [Library.size]
          rfl
      | vector | matrix =>
          rw [Library.size, TypeTerm.shape]
          dsimp only
          rw [scalarSize_name]
          rfl
      | array element count =>
          have helement : typeSizeWithin structs depth (element.text library.spelling)
              = .ok (library.size element) := by
            refine ih htype.2 hremaining ?_
            simp only [TypeTerm.text, List.length_append, List.length_cons] at hdepth
            omega
          rw [Library.size, TypeTerm.shape, Nat.mul_comm]
          dsimp only
          rw [elementCount_eq_ok htype.1, bind_ok, helement]
          rfl
      | struct name =>
          obtain ⟨body, hbody, hlists⟩ := hstructs name
          have hentry := hremaining name ⟨name, rfl, .refl⟩ body hbody
          rw [library.size_struct, TypeTerm.shape]
          dsimp only
          rw [hbody]
          dsimp only
          rw [values_structFields_of_lists library.isStructName hlists (library.distinct name)]
          refine totalSize_eq_ok fun field hfield => ?_
          -- The struct itself is not needed any more: no field reaches it.
          obtain ⟨left, right, rfl⟩ := List.append_of_mem hentry
          refine @ih (left ++ right) field.type (hcounts name field hfield)
            (fun other hother found hfound => ?_) ?_
          · obtain ⟨hreaches, hne⟩ := hother.of_field hfield
            have hmem := hremaining other hreaches found hfound
            rw [List.mem_append, List.mem_cons] at hmem
            rcases hmem with hmem | heq | hmem
            · exact List.mem_append_left right hmem
            · exact absurd (library.spelling_injective (Prod.mk.inj heq).1) hne
            · exact List.mem_append_right left hmem
          · have hlength := length_text_le_of_lists hlists hfield
            simp only [List.map_append, List.map_cons, List.sum_append, List.sum_cons] at hdepth ⊢
            omega

/-- The size that is computed from the text of a type and the bodies of its structs is the sum of
its components' sizes. -/
theorem typeSize_text_eq_size (hstructs : library.Describes structs) (hcounts : library.CountsFit)
    {type : TypeTerm ν} (htype : type.CountsFit) :
    typeSize structs (type.text library.spelling) = .ok (library.size type) := by
  refine typeSizeWithin_text hstructs hcounts htype
    (fun name _ body hbody => Table.mem_of_find?_eq_some hbody) ?_
  rw [nestingBound_eq]
  exact Nat.lt_succ_self _

end Size

/-! ## A library of two structs -/

/-- A numbering that gets smaller from every struct to those it uses leaves no circle. -/
theorem not_transGen_of_rank {fields : ν → List (Field ν)} (rank : ν → Nat)
    (h : ∀ user used, Uses fields user used → rank used < rank user) (name : ν) :
    ¬ Relation.TransGen (Uses fields) name name := by
  have hless {user used : ν} (hreaches : Relation.TransGen (Uses fields) user used) :
      rank used < rank user := by
    induction hreaches with
    | single huses => exact h _ _ huses
    | tail _ huses ih => exact (h _ _ huses).trans ih
  exact fun hcircle => lt_irrefl _ (hless hcircle)

namespace Scene

/-- `false` names the inner struct, `true` the outer one. -/
def spelling : Bool → Text
  | false => "Light".toList
  | true => "Scene".toList

def align : Attribute where
  name := "align".toList
  argument := some "16".toList
  isIdentifier := by decide
  isBalanced := by
    rintro given ⟨⟩
    exact .plain (by decide) (.plain (by decide) .nil)

def position : Field Bool where
  attributes := [align]
  name := "position".toList
  type := .vector .three (.long .f32)
  isIdentifier := by decide

def power : Field Bool where
  attributes := []
  name := "power".toList
  type := .scalar .f16
  isIdentifier := by decide

def lights : Field Bool where
  attributes := []
  name := "lights".toList
  type := .array (.array (.struct false) (some 2)) none
  isIdentifier := by decide

def library : Library Bool where
  spelling := spelling
  fields
    | false => [position, power]
    | true => [lights]
  isStructName
    | false => TypeShape.isStructName_of_ofText (by decide) (by decide)
    | true => TypeShape.isStructName_of_ofText (by decide) (by decide)
  spelling_injective := by decide
  distinct := by decide
  acyclic := by
    refine not_transGen_of_rank Bool.toNat ?_
    rintro (_ | _) used ⟨field, hfield, huses⟩
    · simp only [List.mem_cons, List.not_mem_nil, or_false] at hfield
      rcases hfield with rfl | rfl <;> cases huses
    · obtain rfl := List.mem_singleton.mp hfield
      cases huses
      decide

def lightBody : Text :=
  " @align(16) position: vec3<f32>, power: f16; ".toList

def sceneBody : Text :=
  "lights: array<array<Light, 2>>".toList

def structs : StructTable :=
  .ofList [("Scene".toList, sceneBody), ("Light".toList, lightBody)]

theorem describes : library.Describes structs
  | false => by
      refine ⟨lightBody, by decide, ?_⟩
      exact @Lists.cons _ _ [' '] [] _ ',' _ (by decide) (by decide) (by decide) position
        (@Lists.cons _ _ [' '] [] _ ';' _ (by decide) (by decide) (by decide) power
          (.nil (by decide)))
  | true => ⟨sceneBody, by decide, @Lists.last _ _ [] [] (by decide) (by decide) lights⟩

theorem typeSize_text_eq_size_scene :
    library.Describes structs ∧ library.CountsFit ∧
      (TypeTerm.array (.struct true) (some 3)).CountsFit ∧
      (TypeTerm.array (.struct true) (some 3)).text library.spelling = "array<Scene, 3>".toList ∧
      typeSize structs "array<Scene, 3>".toList = .ok 84 := by
  have hcounts : library.CountsFit := by
    rintro (_ | _) field hfield
    · simp only [library, List.mem_cons, List.not_mem_nil, or_false] at hfield
      rcases hfield with rfl | rfl <;> trivial
    · obtain rfl := List.mem_singleton.mp hfield
      exact ⟨by decide, by decide, trivial⟩
  have htype : (TypeTerm.array (.struct true) (some 3)).CountsFit := ⟨by decide, trivial⟩
  have htext : (TypeTerm.array (.struct true) (some 3)).text library.spelling
      = "array<Scene, 3>".toList := by decide
  have hsize : library.size (.array (.struct true) (some 3)) = 84 := by
    simp [Library.size, Library.size_struct, library, position, power, lights, Width.count,
      Component.scalar, Scalar.bytes]
  have h := typeSize_text_eq_size describes hcounts htype
  rw [htext, hsize] at h
  exact ⟨describes, hcounts, htype, htext, h⟩

end Scene

/-! ## A count that is not read, and a comma that is not seen -/

theorem typeSize_of_long_count (library : Library ν) (structs : StructTable)
    (element : TypeTerm ν) {n : Nat} (h : Text.maxDigits < (Text.ofNat n).length) :
    typeSize structs ((TypeTerm.array element (some n)).text library.spelling)
      = giveUp (.integerLength (Text.ofNat n).length) := by
  rw [typeSize, nestingBound_eq, typeSizeWithin]
  dsimp only
  rw [TypeShape.ofText_text library.isStructName, TypeTerm.shape, Option.map_some]
  dsimp only
  rw [elementCount, if_pos h]
  rfl

/-- The library without structs. -/
def Library.builtin : Library Empty where
  spelling := Empty.elim
  fields := Empty.elim
  isStructName name := name.elim
  spelling_injective name := name.elim
  distinct name := name.elim
  acyclic name := name.elim

/-- An array whose count is written with 4301 digits. -/
def longArray : TypeTerm Empty :=
  .array (.scalar .f32) (some (10 ^ 4300))

theorem length_ofNat_pow {k : Nat} (hk : 0 < k) : (Text.ofNat (10 ^ k)).length = k + 1 := by
  refine le_antisymm ?_ (Nat.lt_of_not_le fun hle => ?_)
  · exact (Nat.length_toDigits_le_iff (by decide) k.succ_pos).mpr
      (Nat.pow_lt_pow_right (by decide) k.lt_succ_self)
  · exact lt_irrefl _ ((Nat.length_toDigits_le_iff (by decide) hk).mp hle)

/-- Two fields, the first of which has a shift in its attribute. -/
def shiftedBody : Text :=
  "@align(1<<4) x: f32, y: f32".toList

/-- Two types have no size although their structure gives them one: an array with a count that is
not read, and a struct whose two fields are read as one. -/
theorem typeSize_longArray_shiftedBody_ne :
    (Library.builtin.Describes {} ∧
      typeSize {} (longArray.text Library.builtin.spelling) = giveUp (.integerLength 4301) ∧
      typeSize {} (longArray.text Library.builtin.spelling)
        ≠ .ok (Library.builtin.size longArray)) ∧
    typeSize (.ofList [("S".toList, shiftedBody)]) "S".toList
        = refuse (.unknownType "f32, y: f32".toList) ∧
      typeSize (.ofList [("S".toList, shiftedBody)]) "S".toList ≠ .ok 8 := by
  have hlength : (Text.ofNat (10 ^ 4300)).length = 4301 := length_ofNat_pow (by decide)
  have hlong : Text.maxDigits < (Text.ofNat (10 ^ 4300)).length := by
    rw [hlength]
    decide
  have hrefused := typeSize_of_long_count Library.builtin {} (.scalar .f32) hlong
  rw [hlength] at hrefused
  have hfused : typeSize (.ofList [("S".toList, shiftedBody)]) "S".toList
      = refuse (.unknownType "f32, y: f32".toList) := by
    unfold shiftedBody
    rfl
  refine ⟨⟨fun name => name.elim, hrefused, fun hread => ?_⟩, hfused, fun hread => ?_⟩
  · cases hrefused.symm.trans hread
  · cases hfused.symm.trans hread

end ShaderMarkup
