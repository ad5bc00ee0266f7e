import Mathlib.Logic.Basic
import ShaderMarkup.Text.Bracket

/-!
# Nesting

How deep a text nests is the number of its opening brackets less that of its closing ones.
`closingFrom` is described through it, for brackets of any kind: the search ends at the first
character behind which the depth is zero (`exists_of_closingFrom_eq_some`), and where it does not
end, the depth stays above zero all along (`nesting_of_closingFrom_eq_none`).
-/

namespace ShaderMarkup

theorem isClosing_eq_false_of_isOpening (c : Char) (h : isOpening c = true) :
    isClosing c = false := by
  simp only [isOpening, Bool.or_eq_true, beq_iff_eq] at h
  rcases h with (rfl | rfl) | rfl <;> rfl

/-- How many more characters of a text open than close. -/
def nesting (opens closes : Char → Bool) (text : Text) : Int :=
  text.countP opens - text.countP closes

section Nesting

variable {opens closes : Char → Bool} {depth : Int} {text : Text}

@[simp] theorem nesting_nil : nesting opens closes [] = 0 :=
  rfl

theorem depthAfter_add_nesting (hapart : ∀ c, opens c = true → closes c = false) (c : Char)
    (front : Text) :
    depthAfter opens closes depth c + nesting opens closes front
      = depth + nesting opens closes (c :: front) := by
  unfold nesting depthAfter
  rw [List.countP_cons, List.countP_cons]
  cases hopens : opens c with
  | true =>
      rw [hapart c hopens]
      simp only [if_true, Bool.false_eq_true, if_false]
      omega
  | false => cases closes c <;> simp only [Bool.false_eq_true, if_true, if_false] <;> omega

/-- The depth behind a text counts its brackets. -/
theorem foldl_depthAfter (hapart : ∀ c, opens c = true → closes c = false) (text : Text)
    (depth : Int) :
    text.foldl (depthAfter opens closes) depth = depth + nesting opens closes text := by
  induction text generalizing depth with
  | nil => simp
  | cons c text ih => rw [List.foldl_cons, ih, depthAfter_add_nesting hapart]

/-- A search that starts inside a bracket ends where the depth is zero. -/
theorem closingFrom_cons (hdepth : 1 ≤ depth) (c : Char) (rest : Text) :
    closingFrom opens closes depth (c :: rest)
      = if depthAfter opens closes depth c = 0 then some 0
        else (closingFrom opens closes (depthAfter opens closes depth c) rest).map (· + 1) := by
  unfold depthAfter
  rw [closingFrom]
  split
  next => rw [if_neg (by omega)]
  next =>
    split
    next => exact if_congr (by omega) rfl rfl
    next => rw [if_neg (by omega)]

theorem one_le_depthAfter (hdepth : 1 ≤ depth) {c : Char}
    (h : depthAfter opens closes depth c ≠ 0) : 1 ≤ depthAfter opens closes depth c := by
  unfold depthAfter at h ⊢
  split
  next => omega
  next hopens =>
    rw [if_neg hopens] at h
    split
    next hcloses =>
      rw [if_pos hcloses] at h
      omega
    next => exact hdepth

theorem closes_of_depthAfter_eq_zero (hdepth : 1 ≤ depth) {c : Char}
    (h : depthAfter opens closes depth c = 0) : closes c = true := by
  unfold depthAfter at h
  split at h
  next => omega
  next =>
    split at h
    next hcloses => exact hcloses
    next => omega

/-- A search that ends has gone over a text that stays inside, up to the character that closes. -/
theorem exists_of_closingFrom_eq_some (hapart : ∀ c, opens c = true → closes c = false)
    (hdepth : 1 ≤ depth) {offset : Nat} (h : closingFrom opens closes depth text = some offset) :
    ∃ inside close rest, text = inside ++ close :: rest ∧ offset = inside.length ∧
      closes close = true ∧ depth + nesting opens closes (inside ++ [close]) = 0 ∧
      ∀ front, front <+: inside → 1 ≤ depth + nesting opens closes front := by
  induction text generalizing depth offset with
  | nil => cases h
  | cons c text ih =>
      rw [closingFrom_cons hdepth] at h
      split at h
      next hzero =>
        cases h
        refine ⟨[], c, text, rfl, rfl, closes_of_depthAfter_eq_zero hdepth hzero, ?_, ?_⟩
        · rw [List.nil_append, ← depthAfter_add_nesting hapart, hzero]
          rfl
        · intro front hfront
          rw [List.prefix_nil.mp hfront]
          simpa using hdepth
      next hzero =>
        obtain ⟨width, hwidth, rfl⟩ := Option.map_eq_some_iff.mp h
        obtain ⟨inside, close, rest, rfl, rfl, hclose, hclosed, hinside⟩ :=
          ih (one_le_depthAfter hdepth hzero) hwidth
        refine ⟨c :: inside, close, rest, rfl, rfl, hclose, ?_, ?_⟩
        · rw [List.cons_append, ← depthAfter_add_nesting hapart, hclosed]
        · intro front hfront
          rcases List.prefix_cons_iff.mp hfront with rfl | ⟨inner, rfl, hinner⟩
          · simpa using hdepth
          · rw [← depthAfter_add_nesting hapart]
            exact hinside inner hinner

/-- A search that does not end stays inside all along. -/
theorem nesting_of_closingFrom_eq_none (hapart : ∀ c, opens c = true → closes c = false)
    (hdepth : 1 ≤ depth) (h : closingFrom opens closes depth text = none) {front : Text}
    (hfront : front <+: text) : 1 ≤ depth + nesting opens closes front := by
  induction text generalizing depth front with
  | nil =>
      rw [List.prefix_nil.mp hfront]
      simpa using hdepth
  | cons c text ih =>
      rw [closingFrom_cons hdepth] at h
      split at h
      next => cases h
      next hzero =>
        rcases List.prefix_cons_iff.mp hfront with rfl | ⟨inner, rfl, hinner⟩
        · simpa using hdepth
        · rw [← depthAfter_add_nesting hapart]
          exact ih (one_le_depthAfter hdepth hzero) (by simpa using h) hinner

end Nesting

end ShaderMarkup
