import Mathlib.Algebra.Ring.Nat
import ShaderMarkup.Proofs.Comma
import ShaderMarkup.Proofs.Construction
import ShaderMarkup.Proofs.Table

/-!
# Uniforms follow their structs

The type of a field is looked at three times: for the number of its components, for the scalar that
they are made of, and for its size.  All three agree (`typeSize_of_componentCount?`), so the size of
a uniform can be told from its values.

`Uniform.Follows` says how the values of a uniform belong to the fields of a struct: the same names
in the same order, for each field as many values as its type has components, and four bytes for each
value.  The fields are read one after the other, and `fieldEntries_eq_ok` is what the loop over them
keeps.  A struct that names a field twice has it once, with the last of its types, so both sides are
tables.
-/

namespace ShaderMarkup

/-! ## What following a struct means -/

/-- The values fit a type: there is one for each component, and for a type made of integers they are
integers, natural numbers if it is unsigned. -/
structure FitsType (type : Text) (values : List Number) : Prop where
  count : (TypeShape.ofText type).componentCount? = some values.length
  few : 1 ≤ values.length ∧ values.length ≤ 4
  signed : (TypeShape.ofText type).scalarName? = some "i32".toList →
    ∀ value ∈ values, ∃ n : Int, value = .int n
  unsigned : (TypeShape.ofText type).scalarName? = some "u32".toList →
    ∀ value ∈ values, ∃ n : Nat, value = .int n

/-- The fields of a uniform are those of a struct, with values that fit their types. -/
structure Uniform.Follows (members : Table Text Text) (uniform : Uniform) : Prop where
  names : uniform.fields.keys = members.keys
  values : ∀ name values, uniform.fields.find? name = some values →
    ∃ type, members.find? name = some type ∧ FitsType type values
  byteSize : uniform.byteSize = 4 * (uniform.fields.values.map List.length).sum

/-! ## Fields -/

theorem fitsType_of_fieldValues {context : Context} {expression field type : Text}
    {evaluated values : List Number} (hevaluated : context.evaluate expression = .ok evaluated)
    (h : fieldValues field type evaluated = .ok values) :
    FitsType type values ∧
      ∀ structs, typeSize structs type = .ok (4 * values.length) := by
  obtain ⟨scalar, hmember, hcount, hscalar, hvalues⟩ := fieldValues_eq_ok h
  have hname : ∀ other : Scalar, (TypeShape.ofText type).scalarName? = some other.name →
      scalar = other := by
    intro other hother
    rw [hother, Option.bind_some, Scalar.ofName?_eq_some_iff.mpr rfl] at hscalar
    exact (Option.some.inj hscalar).symm
  have hlength : values.length = evaluated.length := by
    rcases hvalues with ⟨-, rfl⟩ | ⟨-, hvalues⟩
    · rfl
    · exact (mapM_eq_ok_iff.mp hvalues).length_eq.symm
  -- Only a field of floats keeps its values as they are.
  have hinteger : scalar ≠ .f32 → ∀ value ∈ values, ∃ n : Int, value = .int n ∧
      (scalar = .u32 → 0 ≤ n) := by
    intro hfloat value hvalue
    obtain ⟨hsame, -⟩ | ⟨-, hvalues⟩ := hvalues
    · exact absurd hsame hfloat
    · obtain ⟨item, -, hitem⟩ := exists_of_mem_values_of_mapM_eq_ok hvalues hvalue
      obtain ⟨n, -, rfl, hsign⟩ := integerField_eq_ok hitem
      exact ⟨n, rfl, fun hunsigned => hsign (by simpa using hunsigned)⟩
  rw [← hlength] at hcount
  refine ⟨⟨hcount, ?_, ?_, ?_⟩, fun structs => ?_⟩
  · rw [hlength]
    exact length_of_evaluate hevaluated
  · intro hsigned value hvalue
    obtain rfl := hname .i32 hsigned
    obtain ⟨n, rfl, -⟩ := hinteger (by decide) value hvalue
    exact ⟨n, rfl⟩
  · intro hunsigned value hvalue
    obtain rfl := hname .u32 hunsigned
    obtain ⟨n, rfl, hn⟩ := hinteger (by decide) value hvalue
    obtain ⟨m, rfl⟩ := Int.eq_ofNat_of_zero_le (hn rfl)
    exact ⟨m, rfl⟩
  · have hbytes : scalar.bytes = 4 := by
      simp only [List.mem_cons, List.not_mem_nil, or_false] at hmember
      rcases hmember with rfl | rfl | rfl <;> rfl
    rw [typeSize_of_componentCount? hcount hscalar, hbytes, Nat.mul_comm]

/-- The loop over the fields of a struct keeps their names and their order, finds values that fit
them, and adds four bytes for each value. -/
theorem fieldEntries_eq_ok {context : Context} {defaults : Table Text Text}
    {members : List (Text × Text)} {fields : List (Text × List Number)} {total : Nat}
    (h : fieldEntries context defaults members = .ok (fields, total)) :
    fields.map (·.1) = members.map (·.1) ∧
      (∀ field ∈ fields, ∃ type, (field.1, type) ∈ members ∧ FitsType type field.2) ∧
      total = 4 * (fields.map (·.2.length)).sum := by
  induction members generalizing fields total with
  | nil =>
      cases h
      exact ⟨rfl, by simp, rfl⟩
  | cons member members ih =>
      obtain ⟨name, type⟩ := member
      obtain ⟨⟨values, bytes⟩, hentry, h⟩ := bind_eq_ok_iff.mp h
      obtain ⟨⟨others, rest⟩, hothers, h⟩ := bind_eq_ok_iff.mp h
      cases h
      obtain ⟨hnames, hfits, rfl⟩ := ih hothers
      obtain ⟨_, _, -, hevaluated, hvalues, hbytes⟩ := fieldEntry_eq_ok hentry
      obtain ⟨htype, hsize⟩ := fitsType_of_fieldValues hevaluated hvalues
      rw [hsize] at hbytes
      obtain rfl := Except.ok.inj hbytes
      refine ⟨congrArg (name :: ·) hnames, ?_, ?_⟩
      · rintro field (_ | ⟨_, hfield⟩)
        · exact ⟨type, List.mem_cons_self, htype⟩
        · obtain ⟨other, hmem, hother⟩ := hfits field hfield
          exact ⟨other, List.mem_cons_of_mem _ hmem, hother⟩
      · rw [List.map_cons, List.sum_cons, Nat.mul_add]

/-! ## Uniforms -/

theorem structFieldsOf_eq_ok {context : Context} {structType : Text} {members : Table Text Text}
    (h : Uniform.structFieldsOf context structType = .ok members) :
    ∃ body, context.structs.find? structType = some body ∧ members = structFields body := by
  unfold Uniform.structFieldsOf at h
  split at h
  · cases h
  next body hbody =>
    dsimp only at h
    split at h
    · cases h
    · cases h
      exact ⟨body, hbody, rfl⟩

theorem Uniform.follows_of_layout {context : Context} {text structType : Text} {uniform : Uniform}
    {members defaults : Table Text Text}
    (h : Uniform.layout context text structType = .ok (uniform, members, defaults)) :
    ∃ body, context.structs.find? uniform.structType = some body ∧
      uniform.Follows (structFields body) := by
  obtain ⟨_, hmembers, h⟩ := bind_eq_ok_iff.mp h
  obtain ⟨_, -, h⟩ := bind_eq_ok_iff.mp h
  obtain ⟨⟨fields, total⟩, hfields, h⟩ := bind_eq_ok_iff.mp h
  cases h
  obtain ⟨body, hbody, rfl⟩ := structFieldsOf_eq_ok hmembers
  obtain ⟨hnames, hfits, rfl⟩ := fieldEntries_eq_ok hfields
  have hentries : (Table.ofList fields).entries = fields :=
    Table.entries_ofList (hnames ▸ (structFields body).nodup)
  refine ⟨body, hbody, ?_, ?_, ?_⟩
  · rw [Table.keys, hentries, hnames, Table.keys]
  · intro name values hfind
    obtain ⟨type, hmember, htype⟩ := hfits _ (hentries ▸ Table.mem_of_find?_eq_some hfind)
    exact ⟨type, Table.find?_of_mem hmember, htype⟩
  · simp only [Table.values, hentries, List.map_map]
    rfl

theorem Declaration.follows_of_build {context : Context} {declaration : Declaration}
    {resource : Resource} (h : (declaration.build context).result = .ok resource)
    {uniform : Uniform} (huniform : resource.detail = .uniform uniform) :
    ∃ body, context.structs.find? uniform.structType = some body ∧
      uniform.Follows (structFields body) := by
  have hkind : declaration.kind = .uniform := by
    rw [← Declaration.kind_of_build h, Resource.kind, huniform]
    rfl
  rw [Declaration.build, hkind] at h
  obtain ⟨_, _, _, _, _, -, hlayout, -, rfl⟩ := Uniform.exists_of_build h
  obtain rfl := Detail.uniform.inj huniform
  exact Uniform.follows_of_layout hlayout

/-! ## Whole sources -/

/-- Every uniform of a source that compiles follows the struct that it names. -/
theorem compile_uniform_follows {source : Text} {environment : Environment} {settings : Settings}
    {shader : Shader} (h : (compile source environment settings).result = .ok shader)
    {resource : Resource} (hresource : resource ∈ shader.resources) {uniform : Uniform}
    (huniform : resource.detail = .uniform uniform) :
    ∃ body, (structDefinitions (stripComments source)).find? uniform.structType = some body ∧
      uniform.Follows (structFields body) := by
  obtain ⟨_, accepted, hbuild, hdetail⟩ := (compile_eq_ok_iff.mp h).exists_build_of_mem hresource
  exact Declaration.follows_of_build hbuild (hdetail.trans huniform)

/-- The uniform of a detail, if it is one. -/
def Detail.uniform? : Detail → Option Uniform
  | .uniform found => some found
  | _ => none

/-- A struct with an attribute and both separators, and a uniform of it. -/
def lightUniform : Text :=
  "struct Light \x7b @align(16) color: vec3<f32>, steps: vec2i; count: u32 \x7d;\n".toList
    ++ "@uniform(@count(3) @color(0, 1, 2) @steps(-1, 2)) var<uniform> light: Light;".toList

theorem compile_uniform_follows_lightUniform :
    ∃ shader resource uniform body, (compile lightUniform [] {}).result = .ok shader ∧
      resource ∈ shader.resources ∧ resource.detail = .uniform uniform ∧
      (structDefinitions (stripComments lightUniform)).find? uniform.structType = some body ∧
      uniform.Follows (structFields body) ∧
      (structFields body).keys = ["color".toList, "steps".toList, "count".toList] ∧
      uniform.byteSize = 24 := by
  have hstruct : ((structDefinitions (stripComments lightUniform)).find? "Light".toList).map
      (fun body => (structFields body).keys)
        = some ["color".toList, "steps".toList, "count".toList] := by
    decide +kernel
  have houtline : (compile lightUniform [] {}).result.toOption.map (fun shader =>
      shader.resources.map fun resource => resource.detail.uniform?.map fun uniform =>
        (uniform.structType, uniform.byteSize)) = some [some ("Light".toList, 24)] := by
    decide +kernel
  obtain ⟨shader, hshader, hresources⟩ := Option.map_eq_some_iff.mp houtline
  have hcompile := eq_ok_of_toOption hshader
  obtain ⟨resource, hresource, hdetail⟩ := List.map_eq_singleton_iff.mp hresources
  have hmem : resource ∈ shader.resources := by
    rw [hresource]
    exact List.mem_cons_self
  obtain ⟨uniform, hsome, houtline⟩ := Option.map_eq_some_iff.mp hdetail
  have huniform : resource.detail = .uniform uniform := by
    cases hkind : resource.detail with
    | uniform found =>
        rw [hkind] at hsome
        exact congrArg Detail.uniform (Option.some.inj hsome)
    | texture | buffer | sampler | reference =>
        rw [hkind] at hsome
        cases hsome
  obtain ⟨body, hbody, hfollows⟩ := compile_uniform_follows hcompile hmem huniform
  obtain ⟨hname, hsize⟩ := Prod.mk.inj houtline
  rw [← hname, hbody] at hstruct
  exact ⟨shader, resource, uniform, body, hcompile, hmem, huniform, hbody, hfollows,
    Option.some.inj hstruct, hsize⟩

end ShaderMarkup
