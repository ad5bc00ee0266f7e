import Mathlib.Algebra.Order.Field.Basic
import Mathlib.Algebra.Order.Ring.Rat
import ShaderMarkup.Proofs.Equality
import ShaderMarkup.Proofs.Numeral

/-!
# Numbers as rational numbers

Numbers are compared by their mantissas, once these stand at a common exponent.  What is compared in
this way is the rational number that a number is (`Number.rational?`), so the order of numbers is
the order of rational numbers (`Number.atMost_iff`, `Number.below_iff`), and the integer that a
number is found to be is its value (`Number.rational?_of_toInt?`).
-/

namespace ShaderMarkup

namespace Binary

/-- The rational number that an exact value is, if it is finite. -/
def rational? : Binary → Option ℚ
  | .finite negative mantissa exponent => some ((signed negative mantissa : ℚ) * 2 ^ exponent)
  | .infinite _ => none
  | .nan => none

theorem scaled_lt_scaled_iff {s t : Bool} {m n : Nat} {e f : Int} :
    scaled s m e (min e f) < scaled t n f (min e f) ↔
      (signed s m : ℚ) * 2 ^ e < (signed t n : ℚ) * 2 ^ f := by
  have hpos : (0 : ℚ) < 2 ^ min e f := zpow_pos two_pos _
  rw [← scaled_mul_two_zpow (min_le_left e f), ← scaled_mul_two_zpow (min_le_right e f),
    mul_lt_mul_iff_left₀ hpos, Int.cast_lt]

theorem exists_of_rational? {a : Binary} {p : ℚ} (h : a.rational? = some p) :
    ∃ s m e, a = .finite s m e ∧ (signed s m : ℚ) * 2 ^ e = p := by
  cases a with
  | nan => cases h
  | infinite s => cases h
  | finite s m e => exact ⟨s, m, e, rfl, Option.some.inj h⟩

theorem signed_mul (s : Bool) (m n : Nat) : signed s (m * n) = signed s m * n := by
  unfold signed
  cases s <;> simp

theorem rational?_of_toInt? {a : Binary} {n : Int} (h : a.toInt? = some n) :
    a.rational? = some (n : ℚ) := by
  cases a with
  | nan => cases h
  | infinite s => cases h
  | finite s m e =>
      have hpow : ∀ k : Nat, ((twoPow k : Nat) : ℚ) = 2 ^ k := fun k => by exact_mod_cast rfl
      rw [toInt?] at h
      rw [rational?, Option.some_inj]
      split at h
      next he =>
        obtain rfl := Option.some.inj h
        obtain ⟨k, rfl⟩ := Int.eq_ofNat_of_zero_le he
        rw [Int.cast_mul, Int.cast_natCast, Int.toNat_natCast, hpow, zpow_natCast]
      next he =>
        dsimp only at h
        split at h
        next hdvd =>
          obtain rfl := Option.some.inj h
          obtain ⟨k, rfl⟩ : ∃ k : Nat, e = -(k : Int) := ⟨(-e).toNat, by omega⟩
          rw [neg_neg, Int.toNat_natCast] at hdvd ⊢
          have hm : m = m / twoPow k * twoPow k :=
            (Nat.div_mul_cancel (Nat.dvd_of_mod_eq_zero hdvd)).symm
          have hne : (2 : ℚ) ^ k ≠ 0 := pow_ne_zero _ two_ne_zero
          calc (signed s m : ℚ) * 2 ^ (-(k : Int))
              = ((signed s (m / twoPow k) * twoPow k : Int) : ℚ) * 2 ^ (-(k : Int)) := by
                rw [← signed_mul, ← hm]
            _ = signed s (m / twoPow k) * (2 ^ k * (2 ^ k)⁻¹) := by
                rw [Int.cast_mul, Int.cast_natCast, hpow, zpow_neg, zpow_natCast, mul_assoc]
            _ = signed s (m / twoPow k) := by rw [mul_inv_cancel₀ hne, mul_one]
        next => cases h

end Binary

namespace Number

/-- The rational number that a number is, if it is finite. -/
def rational? (a : Number) : Option ℚ :=
  a.exact.rational?

theorem rational?_of_toInt? {a : Number} {n : Int} (h : a.toInt? = some n) :
    a.rational? = some (n : ℚ) :=
  Binary.rational?_of_toInt? h

theorem rational?_int (n : Int) : (Number.int n).rational? = some (n : ℚ) :=
  rational?_of_toInt? (toInt?_int n)

theorem exists_rational?_of_isFinite {a : Number} (h : a.isFinite = true) :
    ∃ p, a.rational? = some p := by
  unfold isFinite at h
  unfold rational?
  cases hexact : a.exact with
  | nan => rw [hexact] at h; cases h
  | infinite s => rw [hexact] at h; cases h
  | finite s m e => exact ⟨_, rfl⟩

section Order

variable {a b : Number} {p q : ℚ}

theorem below_iff (ha : a.rational? = some p) (hb : b.rational? = some q) :
    a.below b = true ↔ p < q := by
  obtain ⟨s, m, e, hexact, rfl⟩ := Binary.exists_of_rational? ha
  obtain ⟨t, n, f, hexact', rfl⟩ := Binary.exists_of_rational? hb
  rw [below, order?, hexact, hexact', Binary.order?, beq_iff_eq, Option.some_inj,
    compare_lt_iff_lt, Binary.scaled_lt_scaled_iff]

theorem atMost_iff (ha : a.rational? = some p) (hb : b.rational? = some q) :
    a.atMost b = true ↔ p ≤ q := by
  have hbelow := below_iff ha hb
  obtain ⟨s, m, e, hexact, rfl⟩ := Binary.exists_of_rational? ha
  obtain ⟨t, n, f, hexact', rfl⟩ := Binary.exists_of_rational? hb
  have hsame : a.order? b = some .eq ↔
      (Binary.signed s m : ℚ) * 2 ^ e = Binary.signed t n * 2 ^ f := by
    rw [order?, hexact, hexact', Binary.order?, Option.some_inj, compare_eq_iff_eq,
      Binary.scaled_eq_scaled_iff]
  rw [below, beq_iff_eq] at hbelow
  rw [atMost, Bool.or_eq_true, beq_iff_eq, beq_iff_eq, hbelow, hsame, le_iff_lt_or_eq]

end Order

end Number

end ShaderMarkup
