import ShaderMarkup.Decorator.Basic
import ShaderMarkup.Emission

/-!
# How the classes of characters lie to each other

White space is a short list of characters, `blankPoints`, so a fact about all of them is decided
one by one (`of_isBlank`).  In this way word characters and decimal digits are seen not to be white
space in any script.  The smaller classes lie in the larger ones: what separates a decorator's name
from its bracket is white space, and what starts an identifier can also continue one.  A class that
holds none of the six brackets leaves the depth as it is (`not_bracket_of_class`).
-/

namespace ShaderMarkup

section Decidability

variable (p : Char → Prop) [DecidablePred p]

/-- There are finitely many characters, but a fact about those of a text is decided along the
text. -/
instance (priority := 2000) decidableForallMem (text : Text) : Decidable (∀ c ∈ text, p c) :=
  List.decidableBAll p text

instance (priority := 2000) decidableForallMemOption (c? : Option Char) :
    Decidable (∀ c ∈ c?, p c) :=
  c?.decidableForallMem

end Decidability

/-! ## White space -/

/-- The code points of white space. -/
def blankPoints : List Nat :=
  [9, 10, 11, 12, 13, 28, 29, 30, 31, 32, 0x85, 0xA0, 0x1680, 0x2000, 0x2001, 0x2002, 0x2003,
   0x2004, 0x2005, 0x2006, 0x2007, 0x2008, 0x2009, 0x200A, 0x2028, 0x2029, 0x202F, 0x205F, 0x3000]

theorem mem_blankPoints {c : Char} (h : isBlank c = true) : c.toNat ∈ blankPoints := by
  unfold isBlank at h
  simp only [blankPoints, List.mem_cons, List.not_mem_nil, or_false]
  split at h
  · have hspace : c = ' ' → c.toNat = 32 := by
      rintro rfl
      rfl
    simp only [Bool.or_eq_true, Bool.and_eq_true, decide_eq_true_eq, beq_iff_eq] at h
    rcases h with (h | h) | h
    · have := hspace h
      omega
    · omega
    · omega
  · simp only [inBlocks, blankBlocks, List.any_cons, List.any_nil, Bool.or_false,
      Bool.or_eq_true, Bool.and_eq_true, decide_eq_true_eq] at h
    omega

/-- What holds of every character on the list holds of all white space. -/
theorem of_isBlank {p : Char → Prop} (hall : ∀ point ∈ blankPoints, p (Char.ofNat point))
    {c : Char} (h : isBlank c = true) : p c := by
  rw [← Char.ofNat_toNat c]
  exact hall _ (mem_blankPoints h)

/-- White space is no word character. -/
theorem isWord_eq_false_of_isBlank {c : Char} (h : isBlank c = true) : isWord c = false :=
  of_isBlank (p := fun c => isWord c = false) (by decide +kernel) h

theorem isBlank_eq_false_of_isWord {c : Char} (h : isWord c = true) : isBlank c = false := by
  cases hblank : isBlank c with
  | false => rfl
  | true =>
      rw [isWord_eq_false_of_isBlank hblank] at h
      cases h

theorem isBlank_eq_false_of_isDecimal {c : Char} (h : isDecimal c = true) :
    isBlank c = false := by
  cases hblank : isBlank c with
  | false => rfl
  | true =>
      rw [of_isBlank (p := fun c => isDecimal c = false) (by decide +kernel) hblank] at h
      cases h

theorem isBlank_of_isHorizontal {c : Char} (h : isHorizontal c = true) : isBlank c = true := by
  simp only [isHorizontal, Bool.or_eq_true, beq_iff_eq] at h
  rcases h with rfl | rfl <;> decide

/-! ## Identifiers -/

/-- The code points of ASCII letters. -/
theorem toNat_of_isAlpha {c : Char} (h : c.isAlpha = true) :
    65 ≤ c.toNat ∧ c.toNat ≤ 90 ∨ 97 ≤ c.toNat ∧ c.toNat ≤ 122 := by
  unfold Char.isAlpha Char.isUpper Char.isLower at h
  simp only [Bool.or_eq_true, Bool.and_eq_true, decide_eq_true_eq, ge_iff_le,
    UInt32.le_iff_toNat_le] at h
  exact h

/-- What starts an identifier can continue one. -/
theorem isWord_of_isNameStart {c : Char} (h : isNameStart c = true) : isWord c = true := by
  unfold isNameStart at h
  unfold isWord isAlphanumeric
  rcases Bool.or_eq_true_iff.mp h with h | h
  · rw [h, Bool.true_or]
  · have hascii : c.toNat < 128 := by
      have := toNat_of_isAlpha h
      omega
    rw [if_pos hascii, Char.isAlphanum, h, Bool.true_or, Bool.or_true]

/-! ## Brackets -/

/-- A character of a class that holds none of the six brackets is no bracket. -/
theorem not_bracket_of_class {accepts : Char → Bool}
    (hall : ∀ c ∈ ['(', '[', '\x7b', ')', ']', '\x7d'], accepts c = false) {c : Char}
    (h : accepts c = true) : isOpening c = false ∧ isClosing c = false := by
  have hne : c ∉ ['(', '[', '\x7b', ')', ']', '\x7d'] := by
    intro hmem
    rw [hall c hmem] at h
    cases h
  simp only [List.mem_cons, List.not_mem_nil, or_false, not_or] at hne
  simp [isOpening, isClosing, hne]

end ShaderMarkup
