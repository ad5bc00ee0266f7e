import Mathlib.Data.List.Nodup
import ShaderMarkup.Proofs.Emission
import ShaderMarkup.Proofs.Variable

/-!
# Which variables get their slots written

A resource is found in a whole statement, and its variable may stand anywhere in it.  Emission
works on smaller pieces, takes the decorators of the markup out of them with their arguments, and
only then looks for a variable.  So a resource can have a slot that the code does not show.

`boundVariable?` is the variable that emission finds in a piece.  Its slot is written in front of it
(`isBound_plainPiece`), and no other slot plays a part (`plainPiece_congr`).  A slot survives
tidying because it is written without white space that could be tidied (`IsBound.reflowed`).
-/

namespace ShaderMarkup

/-! ## Bound variables -/

/-- Somewhere in the code the slot stands right in front of a declaration of the name. -/
def IsBound (code : Text) (slot : Slot) (name : Text) : Prop :=
  ∃ before declaration rest, code = before ++ slotText slot ++ declaration ∧
    namedVariable declaration = some (name, rest)

theorem isBound_iff {code name : Text} {slot : Slot} :
    IsBound code slot name ↔
      ∃ before head after, code = before ++ (slotText slot ++ head) ++ after ∧
        VariableHead name head := by
  constructor
  · rintro ⟨before, declaration, rest, rfl, hread⟩
    obtain ⟨head, rfl, hhead⟩ := exists_variableHead hread
    exact ⟨before, head, rest, by simp, hhead⟩
  · rintro ⟨before, head, after, rfl, hhead⟩
    exact ⟨before, head ++ after, after, by simp, hhead.read_append after⟩

theorem IsBound.append {code name : Text} {slot : Slot} (h : IsBound code slot name)
    (front back : Text) : IsBound (front ++ code ++ back) slot name := by
  obtain ⟨before, head, after, rfl, hhead⟩ := isBound_iff.mp h
  exact isBound_iff.mpr ⟨front ++ before, head, after ++ back, by simp, hhead⟩

/-- A binding in one of several texts is one in all of them together. -/
theorem IsBound.flatten {texts : List Text} {text name : Text} {slot : Slot}
    (h : IsBound text slot name) (hmem : text ∈ texts) : IsBound texts.flatten slot name := by
  obtain ⟨front, back, rfl⟩ := List.append_of_mem hmem
  simpa using h.append front.flatten back.flatten

/-! ## Tidying keeps bindings -/

theorem ofInt_solid (n : Int) : ∀ c ∈ Text.ofInt n, isBlank c = false := by
  have hdigits : ∀ c ∈ Text.ofNat n.natAbs, isBlank c = false := by
    intro c hc
    have hdigit : c.isDigit = true := Nat.isDigit_of_mem_toDigits (by decide) (by decide) hc
    refine isBlank_eq_false_of_isWord ?_
    have hascii : c.toNat < 128 := by
      simp only [Char.isDigit, Bool.and_eq_true, decide_eq_true_eq] at hdigit
      exact Nat.lt_of_le_of_lt (UInt32.le_iff_toNat_le.mp hdigit.2) (by decide)
    simp [isWord, isAlphanumeric, hascii, Char.isAlphanum, hdigit]
  unfold Text.ofInt
  split
  · rw [List.forall_mem_cons]
    exact ⟨by decide, hdigits⟩
  · exact hdigits

/-- The decorator of a slot's group, as it is written. -/
def groupText (slot : Slot) : Text :=
  "@group(".toList ++ (Text.ofInt slot.group ++ [')'])

/-- The decorator of a slot's binding, as it is written. -/
def bindingText (slot : Slot) : Text :=
  "@binding(".toList ++ (Text.ofInt slot.binding ++ [')'])

theorem slotText_eq (slot : Slot) :
    slotText slot = groupText slot ++ ' ' :: (bindingText slot ++ [' ']) := by
  have hmiddle : ") @binding(".toList = ')' :: ' ' :: "@binding(".toList := rfl
  have hend : ") ".toList = [')', ' '] := rfl
  unfold slotText groupText bindingText
  rw [hmiddle, hend]
  simp only [List.append_assoc, List.cons_append, List.nil_append]

theorem groupText_solid (slot : Slot) : ∀ c ∈ groupText slot, isBlank c = false := by
  unfold groupText
  simp only [List.forall_mem_append]
  exact ⟨by decide, ofInt_solid _, by decide⟩

theorem bindingText_solid (slot : Slot) : ∀ c ∈ bindingText slot, isBlank c = false := by
  unfold bindingText
  simp only [List.forall_mem_append]
  exact ⟨by decide, ofInt_solid _, by decide⟩

/-- A slot in front of a declaration stays as it is. -/
theorem respaced_slotText {slot : Slot} {head t : Text} {c : Char} (hc : isBlank c = false)
    (h : Respaced (slotText slot ++ c :: head) t) :
    ∃ head', t = slotText slot ++ head' ∧ Respaced (c :: head) head' := by
  have hsplit : slotText slot ++ c :: head
      = groupText slot ++ ' ' :: (bindingText slot ++ ' ' :: c :: head) := by
    simp only [slotText_eq, List.append_assoc, List.cons_append, List.nil_append]
  rw [hsplit] at h
  obtain ⟨afterGroup, rfl, hgroup⟩ := h.of_solid_append (groupText_solid slot)
  obtain ⟨fromBinding, rfl, hbinding⟩ : ∃ rest, afterGroup = ' ' :: rest ∧ _ :=
    hgroup.of_space_cons (d := '@') (by decide)
  obtain ⟨afterBinding, rfl, hspace⟩ := hbinding.of_solid_append (bindingText_solid slot)
  obtain ⟨head', rfl, hhead⟩ := hspace.of_space_cons hc
  refine ⟨head', ?_, hhead⟩
  simp only [slotText_eq, List.append_assoc, List.cons_append, List.nil_append]

theorem IsBound.reflowed {code tidied name : Text} {slot : Slot} (h : IsBound code slot name)
    (hflow : Reflowed code tidied) : IsBound tidied slot name := by
  obtain ⟨before, head, after, rfl, hhead⟩ := isBound_iff.mp h
  obtain ⟨inside, rfl⟩ := hhead.exists_eq
  have hfirst : (slotText slot ++ 'v' :: (inside ++ [':'])).head? = some '@' := rfl
  have hlast : (slotText slot ++ 'v' :: (inside ++ [':'])).getLast? = some ':' := by
    rw [← List.cons_append, ← List.append_assoc, List.getLast?_concat]
  obtain ⟨before', mid, after', rfl, hmid⟩ := hflow.middle
    (fun c hc => by
      rw [hfirst] at hc
      cases hc
      decide)
    (fun c hc => by
      rw [hlast] at hc
      cases hc
      decide)
    (by simp)
  obtain ⟨head', rfl, hhead'⟩ := respaced_slotText (by decide) hmid
  exact isBound_iff.mpr ⟨before', head', after', rfl, hhead.respaced hhead'⟩

/-! ## Pieces -/

/-- The variable of a piece that emission writes a slot in front of.  It is sought when the markup
is gone and the first variable that is left belongs to a resource; the slot that is written there
goes first, which may uncover another variable. -/
def boundVariable? (kind : ShaderKind) (workgroup : Option Extent) (isResource : Text → Bool)
    (piece : Text) : Option Text :=
  if (calls piece).any fun call => !call.value.balanced then none
  else
    let plain := plainEntries workgroup (removeDecorators (isMarkup kind) piece)
    match findVariable? namedVariable plain with
    | none => none
    | some declared =>
        if isResource declared.value then
          (findVariable? namedVariable (removeDecorators isSlotDecorator plain)).map (·.value)
        else none

section Piece

variable {kind : ShaderKind} {workgroup : Option Extent} {slotOf : Text → Option Slot}
  {piece text name : Text} {slot : Slot}

/-- The slot of the variable that emission finds in a piece is written in front of it. -/
theorem isBound_plainPiece (h : plainPiece kind workgroup slotOf piece = .ok text)
    (hbound : boundVariable? kind workgroup (fun other => (slotOf other).isSome) piece = some name)
    (hslot : slotOf name = some slot) : IsBound text slot name := by
  unfold boundVariable? at hbound
  unfold plainPiece bindVariable at h
  split at hbound
  next => cases hbound
  next hbalanced =>
    rw [if_neg hbalanced] at h
    dsimp only at hbound h
    split at hbound
    next => cases hbound
    next declared hdeclared =>
      rw [hdeclared] at h
      split at hbound
      next hsome =>
        obtain ⟨found, hfound, rfl⟩ := Option.map_eq_some_iff.mp hbound
        rw [hfound] at h
        simp only [Option.isNone_eq_false_iff.mpr hsome, Bool.false_eq_true, if_false, hslot] at h
        cases h
        obtain ⟨left, right, rest, hsplit, hstart, hread⟩ := exists_of_findVariable? hfound
        rw [hsplit, hstart, List.take_left, List.drop_left]
        exact ⟨left, right, rest, rfl, hread⟩
      next => cases hbound

/-- Slots that differ only for a variable which emission does not find in the piece give the piece
the same plain form. -/
theorem plainPiece_congr {other : Text → Option Slot}
    (hsome : ∀ declared, (slotOf declared).isSome = (other declared).isSome)
    (hsame : ∀ declared, declared ≠ name → slotOf declared = other declared)
    (hbound : boundVariable? kind workgroup (fun declared => (slotOf declared).isSome) piece
      ≠ some name) :
    plainPiece kind workgroup slotOf piece = plainPiece kind workgroup other piece := by
  unfold boundVariable? at hbound
  unfold plainPiece bindVariable
  split
  next => rfl
  next hbalanced =>
    rw [if_neg hbalanced] at hbound
    dsimp only at hbound ⊢
    split
    next => rfl
    next declared hdeclared =>
      rw [hdeclared] at hbound
      have hnone : (slotOf declared.value).isNone = (other declared.value).isNone := by
        rw [← Option.not_isSome, ← Option.not_isSome, hsome]
      rw [hnone]
      split
      next => rfl
      next hslot =>
        have hdeclaredSome : (slotOf declared.value).isSome = true := by
          rw [← hnone] at hslot
          simpa [Option.isSome_iff_ne_none] using hslot
        simp only [hdeclaredSome, if_true] at hbound
        split
        next => rfl
        next found hfound =>
          rw [hsame found.value]
          rintro rfl
          exact hbound (by rw [hfound]; rfl)

/-- The slot that is found for a piece of an open region is in the region's plain form. -/
theorem isBound_plainOpen {atLineStart : Bool} {plain : Text}
    (h : plainOpen kind workgroup slotOf atLineStart text = .ok plain)
    (hmem : piece ∈ semicolonPieces text)
    (hbound : boundVariable? kind workgroup (fun declared => (slotOf declared).isSome) piece
      = some name)
    (hslot : slotOf name = some slot) : IsBound plain slot name := by
  obtain ⟨pieces, hpieces, h⟩ := bind_eq_ok_iff.mp h
  cases h
  obtain ⟨written, hwritten, hplain⟩ := exists_of_mem_of_mapM_eq_ok hpieces hmem
  have hflat : IsBound pieces.flatten slot name :=
    (isBound_plainPiece hplain hbound hslot).flatten hwritten
  exact (hflat.reflowed (respaced_squeeze _).reflowed).reflowed (reflowed_unindent _ _)

end Piece

/-! ## Slots by name -/

/-- The resources with the one of the name moved to another slot. -/
def relocate (name : Text) (slot : Slot) (resources : List Resource) : List Resource :=
  resources.map fun resource =>
    if resource.name = name then
      { resource with group := slot.group, binding := some slot.binding }
    else resource

theorem isSome_slotNamed? (resources : List Resource) (name : Text) :
    (slotNamed? resources name).isSome = resources.any fun resource => resource.name = name := by
  rw [Bool.eq_iff_iff]
  simp [slotNamed?]

theorem slotNamed?_eq_some {resources : List Resource}
    (hnames : (resources.map (·.name)).Nodup) {resource : Resource} (hmem : resource ∈ resources) :
    slotNamed? resources resource.name = some resource.slot := by
  have hsome : (slotNamed? resources resource.name).isSome = true := by
    rw [isSome_slotNamed?, List.any_eq_true]
    exact ⟨resource, hmem, by simp⟩
  obtain ⟨slot, hslot⟩ := Option.isSome_iff_exists.mp hsome
  obtain ⟨found, hfound, rfl⟩ := Option.map_eq_some_iff.mp hslot
  have hname : found.name = resource.name := by simpa using List.find?_some hfound
  have hfoundMem : found ∈ resources := by simpa using List.mem_of_find?_eq_some hfound
  rw [hslot, List.inj_on_of_nodup_map hnames hfoundMem hmem hname]

theorem isSome_slotNamed?_relocate (resources : List Resource) (name declared : Text)
    (slot : Slot) :
    (slotNamed? (relocate name slot resources) declared).isSome
      = (slotNamed? resources declared).isSome := by
  rw [isSome_slotNamed?, isSome_slotNamed?, relocate, List.any_map]
  congr 1
  funext resource
  simp only [Function.comp_apply]
  split <;> rfl

theorem slotNamed?_relocate_of_ne {resources : List Resource} {name declared : Text} {slot : Slot}
    (h : declared ≠ name) :
    slotNamed? (relocate name slot resources) declared = slotNamed? resources declared := by
  unfold slotNamed? relocate
  rw [← List.map_reverse, List.find?_map, Option.map_map]
  have hnames : ((fun resource : Resource => decide (resource.name = declared)) ∘ fun resource =>
      if resource.name = name then
        { resource with group := slot.group, binding := some slot.binding }
      else resource) = fun resource => decide (resource.name = declared) := by
    funext resource
    simp only [Function.comp_apply]
    split <;> rfl
  rw [hnames]
  refine Option.map_congr fun resource hresource => ?_
  have hname : resource.name = declared := by simpa using List.find?_some hresource
  rw [Function.comp_apply, if_neg (hname ▸ h)]

end ShaderMarkup
