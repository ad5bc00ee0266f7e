import Mathlib.Algebra.Field.Rat
import Mathlib.Algebra.GroupWithZero.Basic
import Mathlib.Data.List.Forall2
import Mathlib.Data.List.Perm.Subperm
import Mathlib.Data.Option.Basic
import Mathlib.Data.Rat.Cast.Lemmas
import ShaderMarkup.Change
import ShaderMarkup.Proofs.Table

/-!
# Equality of resources

Resources are compared field by field.  What each comparison means is said here without the
comparison itself.

* Numbers are compared as rational numbers, whichever way they are written
  (`Number.same_iff`).  A double that is no number equals nothing, itself included.
* The fields of a uniform are compared by name, so their order does not count
  (`sameFields_iff`).
* `Resource.EqualApartFromSlot` puts the fields together, and `Resource.sameApartFromSlot_iff` says
  that this is what the program computes.
* A resource that holds nothing but numbers equals itself
  (`Resource.IsNumeric.equalApartFromSlot`).
* Whatever the numbers are, the comparison is symmetric and transitive
  (`Resource.EqualApartFromSlot.symm`, `Resource.EqualApartFromSlot.trans`).
-/

namespace ShaderMarkup

/-! ## Numbers -/

/-- Two exact values are one number.  What is no number is not even the same as itself. -/
inductive Binary.SameValue : Binary → Binary → Prop
  | infinite (negative : Bool) : SameValue (.infinite negative) (.infinite negative)
  | finite {s t : Bool} {m n : Nat} {e f : Int}
      (h : (Binary.signed s m : ℚ) * 2 ^ e = (Binary.signed t n : ℚ) * 2 ^ f) :
      SameValue (.finite s m e) (.finite t n f)

/-- Two numbers have one value. -/
def Number.SameValue (a b : Number) : Prop :=
  a.exact.SameValue b.exact

namespace Binary

/-- The mantissa at a smaller exponent stands for the same rational number. -/
theorem scaled_mul_two_zpow {negative : Bool} {mantissa : Nat} {exponent common : Int}
    (h : common ≤ exponent) :
    (scaled negative mantissa exponent common : ℚ) * 2 ^ common
      = (signed negative mantissa : ℚ) * 2 ^ exponent := by
  have hsum : exponent = ((exponent - common).toNat : Int) + common := by omega
  have hpow : ((twoPow (exponent - common).toNat : Int) : ℚ)
      = 2 ^ ((exponent - common).toNat : Int) := by
    rw [zpow_natCast]
    exact_mod_cast rfl
  calc (scaled negative mantissa exponent common : ℚ) * 2 ^ common
      = (signed negative mantissa : ℚ) * ((twoPow (exponent - common).toNat : Int) : ℚ)
          * 2 ^ common := by rw [scaled, Int.cast_mul]
    _ = (signed negative mantissa : ℚ) * 2 ^ (((exponent - common).toNat : Int) + common) := by
        rw [hpow, mul_assoc, ← zpow_add₀ two_ne_zero]
    _ = (signed negative mantissa : ℚ) * 2 ^ exponent := by rw [← hsum]

theorem scaled_eq_scaled_iff {s t : Bool} {m n : Nat} {e f : Int} :
    scaled s m e (min e f) = scaled t n f (min e f) ↔
      (signed s m : ℚ) * 2 ^ e = (signed t n : ℚ) * 2 ^ f := by
  have hpos : (2 : ℚ) ^ min e f ≠ 0 := zpow_ne_zero _ two_ne_zero
  rw [← scaled_mul_two_zpow (min_le_left e f), ← scaled_mul_two_zpow (min_le_right e f),
    mul_left_inj' hpos, Int.cast_inj]

theorem order?_eq_some_eq_iff {a b : Binary} : a.order? b = some .eq ↔ a.SameValue b := by
  constructor
  · intro h
    cases a with
    | nan => cases h
    | infinite s =>
        cases b with
        | nan => cases h
        | infinite t =>
            cases s <;> cases t <;> first | exact .infinite _ | exact absurd h (by decide)
        | finite t n f => cases s <;> exact absurd h (by simp [order?])
    | finite s m e =>
        cases b with
        | nan => cases h
        | infinite t => cases t <;> exact absurd h (by simp [order?])
        | finite t n f =>
            rw [order?, Option.some_inj, Std.compare_eq_iff_eq] at h
            exact .finite (scaled_eq_scaled_iff.mp h)
  · intro h
    cases h with
    | infinite s => cases s <;> rfl
    | finite h => rw [order?, scaled_eq_scaled_iff.mpr h, Std.compare_self]

end Binary

theorem Number.same_iff {a b : Number} : a.same b = true ↔ a.SameValue b := by
  rw [Number.same, beq_iff_eq]
  exact Binary.order?_eq_some_eq_iff

theorem Number.sameValue_self {a : Number} : a.SameValue a ↔ a.exact ≠ .nan := by
  unfold Number.SameValue
  cases a.exact with
  | nan => exact ⟨nofun, fun h => absurd rfl h⟩
  | infinite s => exact ⟨nofun, fun _ => .infinite s⟩
  | finite s m e => exact ⟨nofun, fun _ => .finite rfl⟩

/-! ## Numbers in lists, options and tables -/

theorem sameNumbers_iff {as bs : List Number} :
    sameNumbers as bs = true ↔ List.Forall₂ Number.SameValue as bs := by
  induction as generalizing bs with
  | nil => cases bs <;> simp [sameNumbers]
  | cons a as ih =>
      cases bs with
      | nil => simp [sameNumbers]
      | cons b bs => rw [sameNumbers, Bool.and_eq_true, Number.same_iff, ih, List.forall₂_cons]

theorem sameNumber?_iff {a b : Option Number} :
    sameNumber? a b = true ↔ Option.Rel Number.SameValue a b := by
  cases a <;> cases b <;> simp [sameNumber?, Number.same_iff]

/-- Two tables of numbers hold the same fields, in any order. -/
def SameFields (a b : Table Text (List Number)) : Prop :=
  ∀ field, Option.Rel (List.Forall₂ Number.SameValue) (a.find? field) (b.find? field)

theorem SameFields.keys_iff {a b : Table Text (List Number)} (h : SameFields a b) (field : Text) :
    field ∈ a.entries.map (·.1) ↔ field ∈ b.entries.map (·.1) := by
  replace h := h field
  rw [← not_iff_not, ← Table.find?_eq_none_iff, ← Table.find?_eq_none_iff]
  generalize a.find? field = left, b.find? field = right at h
  cases h with
  | none => simp
  | some hvalues => simp

theorem sameFields_iff {a b : Table Text (List Number)} :
    sameFields a b = true ↔ SameFields a b := by
  rw [sameFields, Bool.and_eq_true, beq_iff_eq, List.all_eq_true]
  constructor
  · rintro ⟨hlength, hvalues⟩ field
    have hfound : ∀ values, a.find? field = some values → ∃ others,
        b.find? field = some others ∧ List.Forall₂ Number.SameValue values others := by
      intro values hvalue
      have hentry := hvalues (field, values) (Table.mem_of_find?_eq_some hvalue)
      obtain ⟨others, hothers, hsame⟩ := (Option.any_eq_true _ _).mp hentry
      exact ⟨others, hothers, sameNumbers_iff.mp hsame⟩
    cases ha : a.find? field with
    | some values =>
        obtain ⟨others, hothers, hsame⟩ := hfound values ha
        rw [hothers]
        exact .some hsame
    | none =>
        -- Equally many names, and those of the first among those of the second: they are the same.
        have hsubset : a.entries.map (·.1) ⊆ b.entries.map (·.1) := by
          intro name hname
          obtain ⟨entry, hentry, rfl⟩ := List.mem_map.mp hname
          obtain ⟨others, hothers, _⟩ := (Option.any_eq_true _ _).mp (hvalues entry hentry)
          exact List.mem_map.mpr ⟨_, Table.mem_of_find?_eq_some hothers, rfl⟩
        have hperm : (a.entries.map (·.1)).Perm (b.entries.map (·.1)) :=
          (List.subperm_of_subset a.nodup hsubset).perm_of_length_le (by simp [hlength])
        have hb : b.find? field = none := by
          rw [Table.find?_eq_none_iff, ← hperm.mem_iff, ← Table.find?_eq_none_iff]
          exact ha
        rw [hb]
        exact .none
  · intro h
    have hperm : (a.entries.map (·.1)).Perm (b.entries.map (·.1)) :=
      (List.perm_ext_iff_of_nodup a.nodup b.nodup).mpr h.keys_iff
    refine ⟨by simpa using hperm.length_eq, ?_⟩
    rintro ⟨field, values⟩ hentry
    have hfield := h field
    rw [Table.find?_of_mem hentry] at hfield
    cases hb : b.find? field with
    | none =>
        rw [hb] at hfield
        cases hfield
    | some others =>
        rw [hb] at hfield
        cases hfield with
        | some hsame => exact (Option.any_eq_true _ _).mpr ⟨others, rfl, sameNumbers_iff.mpr hsame⟩

/-! ## Resources -/

/-- Two uniforms agree on the struct, on the value of every field and on the size. -/
structure Uniform.Equal (a b : Uniform) : Prop where
  structType : a.structType = b.structType
  fields : SameFields a.fields b.fields
  byteSize : a.byteSize = b.byteSize

/-- Two samplers agree on every parameter. -/
structure Sampler.Equal (a b : Sampler) : Prop where
  addressModeU : a.addressModeU = b.addressModeU
  addressModeV : a.addressModeV = b.addressModeV
  addressModeW : a.addressModeW = b.addressModeW
  magFilter : a.magFilter = b.magFilter
  minFilter : a.minFilter = b.minFilter
  mipmapFilter : a.mipmapFilter = b.mipmapFilter
  lodMinClamp : Option.Rel Number.SameValue a.lodMinClamp b.lodMinClamp
  lodMaxClamp : Option.Rel Number.SameValue a.lodMaxClamp b.lodMaxClamp
  compare : a.compare = b.compare
  maxAnisotropy : Option.Rel Number.SameValue a.maxAnisotropy b.maxAnisotropy

/-- Two details are of one kind and agree on everything that is special to it. -/
inductive Detail.Equal : Detail → Detail → Prop
  | texture (texture : Texture) : Equal (.texture texture) (.texture texture)
  | buffer (buffer : Buffer) : Equal (.buffer buffer) (.buffer buffer)
  | uniform {a b : Uniform} (h : a.Equal b) : Equal (.uniform a) (.uniform b)
  | sampler {a b : Sampler} (h : a.Equal b) : Equal (.sampler a) (.sampler b)
  | reference (reference : Reference) : Equal (.reference reference) (.reference reference)

/-- Two resources agree on every field but the binding and the index of the declaration. -/
structure Resource.EqualApartFromSlot (a b : Resource) : Prop where
  name : a.name = b.name
  group : a.group = b.group
  usedInBody : a.usedInBody = b.usedInBody
  wildcards : a.wildcards = b.wildcards
  detail : a.detail.Equal b.detail

theorem Uniform.same_iff {a b : Uniform} : a.same b = true ↔ a.Equal b := by
  simp only [same, Bool.and_eq_true, beq_iff_eq, sameFields_iff]
  exact ⟨fun ⟨⟨hstruct, hfields⟩, hsize⟩ => ⟨hstruct, hfields, hsize⟩,
    fun ⟨hstruct, hfields, hsize⟩ => ⟨⟨hstruct, hfields⟩, hsize⟩⟩

theorem Sampler.same_iff {a b : Sampler} : a.same b = true ↔ a.Equal b := by
  simp only [same, Bool.and_eq_true, beq_iff_eq, sameNumber?_iff, and_assoc]
  exact ⟨fun ⟨hu, hv, hw, hmag, hmin, hmipmap, hlow, hhigh, hcompare, hmax⟩ =>
      ⟨hu, hv, hw, hmag, hmin, hmipmap, hlow, hhigh, hcompare, hmax⟩,
    fun ⟨hu, hv, hw, hmag, hmin, hmipmap, hlow, hhigh, hcompare, hmax⟩ =>
      ⟨hu, hv, hw, hmag, hmin, hmipmap, hlow, hhigh, hcompare, hmax⟩⟩

theorem Detail.same_iff {a b : Detail} : a.same b = true ↔ a.Equal b := by
  constructor
  · intro h
    cases a with
    | texture a =>
        cases b with
        | texture b => exact beq_iff_eq.mp h ▸ .texture a
        | _ => cases h
    | buffer a =>
        cases b with
        | buffer b => exact beq_iff_eq.mp h ▸ .buffer a
        | _ => cases h
    | uniform a =>
        cases b with
        | uniform b => exact .uniform (Uniform.same_iff.mp h)
        | _ => cases h
    | sampler a =>
        cases b with
        | sampler b => exact .sampler (Sampler.same_iff.mp h)
        | _ => cases h
    | reference a =>
        cases b with
        | reference b => exact beq_iff_eq.mp h ▸ .reference a
        | _ => cases h
  · intro h
    cases h with
    | texture texture => exact beq_self_eq_true texture
    | buffer buffer => exact beq_self_eq_true buffer
    | uniform h => exact Uniform.same_iff.mpr h
    | sampler h => exact Sampler.same_iff.mpr h
    | reference reference => exact beq_self_eq_true reference

/-- What the program compares is every field but the binding and the index. -/
theorem Resource.sameApartFromSlot_iff {a b : Resource} :
    a.sameApartFromSlot b = true ↔ a.EqualApartFromSlot b := by
  simp only [sameApartFromSlot, Bool.and_eq_true, beq_iff_eq, Detail.same_iff, and_assoc]
  exact ⟨fun ⟨hname, hgroup, hused, hwildcards, hdetail⟩ =>
      ⟨hname, hgroup, hused, hwildcards, hdetail⟩,
    fun ⟨hname, hgroup, hused, hwildcards, hdetail⟩ =>
      ⟨hname, hgroup, hused, hwildcards, hdetail⟩⟩

/-! ## A resource and itself -/

/-- The numbers that a detail holds and that may be doubles. -/
def Detail.numbers : Detail → List Number
  | .uniform detail => detail.fields.values.flatten
  | .sampler detail =>
      detail.lodMinClamp.toList ++ detail.lodMaxClamp.toList ++ detail.maxAnisotropy.toList
  | _ => []

/-- No number of the resource is a double that is no number. -/
def Resource.IsNumeric (resource : Resource) : Prop :=
  ∀ number ∈ resource.detail.numbers, number.exact ≠ .nan

theorem Option.rel_sameValue_self {value : Option Number}
    (h : ∀ number ∈ value.toList, number.exact ≠ .nan) :
    Option.Rel Number.SameValue value value := by
  cases value with
  | none => exact .none
  | some number => exact .some (Number.sameValue_self.mpr (h number (by simp)))

theorem Detail.equal_self {detail : Detail}
    (h : ∀ number ∈ detail.numbers, number.exact ≠ .nan) : detail.Equal detail := by
  cases detail with
  | texture texture => exact .texture texture
  | buffer buffer => exact .buffer buffer
  | reference reference => exact .reference reference
  | uniform uniform =>
      refine .uniform ⟨rfl, fun field => ?_, rfl⟩
      cases hfield : uniform.fields.find? field with
      | none => exact .none
      | some values =>
          refine .some (List.forall₂_same.mpr fun number hnumber => ?_)
          have hmem : values ∈ uniform.fields.values :=
            List.mem_map.mpr ⟨_, Table.mem_of_find?_eq_some hfield, rfl⟩
          exact Number.sameValue_self.mpr (h number (List.mem_flatten.mpr ⟨values, hmem, hnumber⟩))
  | sampler sampler =>
      simp only [numbers, List.mem_append] at h
      exact .sampler {
        addressModeU := rfl, addressModeV := rfl, addressModeW := rfl
        magFilter := rfl, minFilter := rfl, mipmapFilter := rfl, compare := rfl
        lodMinClamp := Option.rel_sameValue_self fun number hnumber =>
          h number (Or.inl (Or.inl hnumber))
        lodMaxClamp := Option.rel_sameValue_self fun number hnumber =>
          h number (Or.inl (Or.inr hnumber))
        maxAnisotropy := Option.rel_sameValue_self fun number hnumber =>
          h number (Or.inr hnumber) }

/-- A resource equals one that differs from it in the binding and the index only. -/
theorem Resource.IsNumeric.equalApartFromSlot {resource : Resource} (h : resource.IsNumeric)
    (binding : Option Int) (index : Int) :
    resource.EqualApartFromSlot { resource with binding, declarationIndex := index } where
  name := rfl
  group := rfl
  usedInBody := rfl
  wildcards := rfl
  detail := Detail.equal_self h

/-! ## The other way round, and over a third resource -/

section Relations

variable {α : Type} {r : α → α → Prop}

theorem option_rel_symm (hsymm : ∀ a b, r a b → r b a) {x y : Option α} (h : Option.Rel r x y) :
    Option.Rel r y x := by
  cases h with
  | none => exact .none
  | some h => exact .some (hsymm _ _ h)

theorem option_rel_trans (htrans : ∀ a b c, r a b → r b c → r a c) {x y z : Option α}
    (h : Option.Rel r x y) (h' : Option.Rel r y z) : Option.Rel r x z := by
  cases h with
  | none => exact h'
  | some h =>
      cases h' with
      | some h' => exact .some (htrans _ _ _ h h')

theorem forall₂_symm (hsymm : ∀ a b, r a b → r b a) {as bs : List α}
    (h : List.Forall₂ r as bs) : List.Forall₂ r bs as :=
  List.Forall₂.flip (h.imp hsymm)

theorem forall₂_trans (htrans : ∀ a b c, r a b → r b c → r a c) {as bs cs : List α}
    (h : List.Forall₂ r as bs) (h' : List.Forall₂ r bs cs) : List.Forall₂ r as cs := by
  induction h generalizing cs with
  | nil => exact h'
  | cons hhead _ ih =>
      cases h' with
      | cons hhead' htail' => exact .cons (htrans _ _ _ hhead hhead') (ih htail')

end Relations

namespace Number.SameValue

theorem symm (a b : Number) (h : a.SameValue b) : b.SameValue a := by
  unfold SameValue at h ⊢
  generalize a.exact = x, b.exact = y at h
  cases h with
  | infinite negative => exact .infinite negative
  | finite h => exact .finite h.symm

theorem trans (a b c : Number) (h : a.SameValue b) (h' : b.SameValue c) : a.SameValue c := by
  unfold SameValue at h h' ⊢
  generalize a.exact = x, b.exact = y, c.exact = z at h h'
  cases h with
  | infinite negative => exact h'
  | finite h =>
      cases h' with
      | finite h' => exact .finite (h.trans h')

end Number.SameValue

theorem SameFields.symm {a b : Table Text (List Number)} (h : SameFields a b) : SameFields b a :=
  fun field => option_rel_symm (fun _ _ => forall₂_symm Number.SameValue.symm) (h field)

theorem SameFields.trans {a b c : Table Text (List Number)} (h : SameFields a b)
    (h' : SameFields b c) : SameFields a c :=
  fun field =>
    option_rel_trans (r := List.Forall₂ Number.SameValue)
      (fun _ _ _ => forall₂_trans Number.SameValue.trans) (h field) (h' field)

theorem Uniform.Equal.symm {a b : Uniform} (h : a.Equal b) : b.Equal a where
  structType := h.structType.symm
  fields := h.fields.symm
  byteSize := h.byteSize.symm

theorem Uniform.Equal.trans {a b c : Uniform} (h : a.Equal b) (h' : b.Equal c) : a.Equal c where
  structType := h.structType.trans h'.structType
  fields := h.fields.trans h'.fields
  byteSize := h.byteSize.trans h'.byteSize

theorem Sampler.Equal.symm {a b : Sampler} (h : a.Equal b) : b.Equal a where
  addressModeU := h.addressModeU.symm
  addressModeV := h.addressModeV.symm
  addressModeW := h.addressModeW.symm
  magFilter := h.magFilter.symm
  minFilter := h.minFilter.symm
  mipmapFilter := h.mipmapFilter.symm
  lodMinClamp := option_rel_symm Number.SameValue.symm h.lodMinClamp
  lodMaxClamp := option_rel_symm Number.SameValue.symm h.lodMaxClamp
  compare := h.compare.symm
  maxAnisotropy := option_rel_symm Number.SameValue.symm h.maxAnisotropy

theorem Sampler.Equal.trans {a b c : Sampler} (h : a.Equal b) (h' : b.Equal c) : a.Equal c where
  addressModeU := h.addressModeU.trans h'.addressModeU
  addressModeV := h.addressModeV.trans h'.addressModeV
  addressModeW := h.addressModeW.trans h'.addressModeW
  magFilter := h.magFilter.trans h'.magFilter
  minFilter := h.minFilter.trans h'.minFilter
  mipmapFilter := h.mipmapFilter.trans h'.mipmapFilter
  lodMinClamp := option_rel_trans Number.SameValue.trans h.lodMinClamp h'.lodMinClamp
  lodMaxClamp := option_rel_trans Number.SameValue.trans h.lodMaxClamp h'.lodMaxClamp
  compare := h.compare.trans h'.compare
  maxAnisotropy := option_rel_trans Number.SameValue.trans h.maxAnisotropy h'.maxAnisotropy

theorem Detail.Equal.symm {a b : Detail} (h : a.Equal b) : b.Equal a := by
  cases h with
  | texture texture => exact .texture texture
  | buffer buffer => exact .buffer buffer
  | uniform h => exact .uniform h.symm
  | sampler h => exact .sampler h.symm
  | reference reference => exact .reference reference

theorem Detail.Equal.trans {a b c : Detail} (h : a.Equal b) (h' : b.Equal c) : a.Equal c := by
  cases h with
  | texture texture => exact h'
  | buffer buffer => exact h'
  | uniform h =>
      cases h' with
      | uniform h' => exact .uniform (h.trans h')
  | sampler h =>
      cases h' with
      | sampler h' => exact .sampler (h.trans h')
  | reference reference => exact h'

theorem Resource.EqualApartFromSlot.symm {a b : Resource} (h : a.EqualApartFromSlot b) :
    b.EqualApartFromSlot a where
  name := h.name.symm
  group := h.group.symm
  usedInBody := h.usedInBody.symm
  wildcards := h.wildcards.symm
  detail := h.detail.symm

theorem Resource.EqualApartFromSlot.trans {a b c : Resource} (h : a.EqualApartFromSlot b)
    (h' : b.EqualApartFromSlot c) : a.EqualApartFromSlot c where
  name := h.name.trans h'.name
  group := h.group.trans h'.group
  usedInBody := h.usedInBody.trans h'.usedInBody
  wildcards := h.wildcards.trans h'.wildcards
  detail := h.detail.trans h'.detail

end ShaderMarkup
