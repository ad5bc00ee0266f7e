import Mathlib.Data.List.Sort
import ShaderMarkup.Proofs.Segments

/-!
# Ranges in order

What is found in a text comes with ranges of characters, from left to right and without overlap
(`InOrder`).  A character lies in at most one of them (`InOrder.eq_of_contains`).

There may be more than one way to cut ranges out of a text.  `InOrder.eq_of_covered` is how two ways
are compared: they are the same if each starts its ranges only where the other one has a range too,
and ranges with the same start agree.

A search finds ranges in order (`Segmented.inOrder_hitsFrom`), and there is one wherever the
recognizer accepts (`Segmented.exists_hit_at`).
-/

namespace ShaderMarkup

variable {α : Type} {start stop : α → Nat} {found others : List α}

/-- No range is empty, and each one ends before the next one starts.  So the starts increase, and no
two ranges overlap. -/
structure InOrder (start stop : α → Nat) (found : List α) : Prop where
  nonempty : ∀ item ∈ found, start item < stop item
  apart : found.Pairwise fun item next => stop item ≤ start next

namespace InOrder

theorem nil : InOrder start stop [] :=
  ⟨by simp, .nil⟩

theorem cons {item : α} (hitem : start item < stop item)
    (hnext : ∀ next ∈ found, stop item ≤ start next) (h : InOrder start stop found) :
    InOrder start stop (item :: found) :=
  ⟨List.forall_mem_cons.mpr ⟨hitem, h.nonempty⟩, .cons hnext h.apart⟩

theorem pairwise_start_lt (h : InOrder start stop found) :
    found.Pairwise fun item next => start item < start next :=
  h.apart.imp_of_mem fun hitem _ hle => Nat.lt_of_lt_of_le (h.nonempty _ hitem) hle

/-- A place lies in one range only. -/
theorem eq_of_contains (h : InOrder start stop found) {place : Nat} {item other : α}
    (hitem : item ∈ found) (hstart : start item ≤ place) (hstop : place < stop item)
    (hother : other ∈ found) (hstart' : start other ≤ place) (hstop' : place < stop other) :
    item = other := by
  have hapart := h.apart
  obtain ⟨left, right, rfl⟩ := List.append_of_mem hitem
  obtain ⟨-, hright, hleft⟩ := List.pairwise_append.mp hapart
  rw [List.mem_append, List.mem_cons] at hother
  rcases hother with hother | rfl | hother
  · have := hleft other hother item List.mem_cons_self
    omega
  · rfl
  · have := (List.pairwise_cons.mp hright).1 other hother
    omega

/-- A range belongs to the other list too, if its start is covered there and all that starts before
it there belongs to this list. -/
theorem mem_of_covered (h : InOrder start stop found)
    (hsame : ∀ item ∈ found, ∀ other ∈ others, start item = start other → item = other)
    {item : α} (hitem : item ∈ found)
    (hcovered : ∃ other ∈ others, start other ≤ start item ∧ start item < stop other)
    (hearlier : ∀ other ∈ others, start other < start item → other ∈ found) : item ∈ others := by
  obtain ⟨other, hother, hstart, hstop⟩ := hcovered
  rcases Nat.lt_or_eq_of_le hstart with hlt | heq
  · -- The covering range would be one of this list, and overlap.
    have heq := h.eq_of_contains hitem (Nat.le_refl _) (h.nonempty item hitem)
      (hearlier other hother hlt) hstart hstop
    rw [heq] at hlt
    exact absurd hlt (Nat.lt_irrefl _)
  · rwa [hsame item hitem other hother heq.symm]

/-- Two lists of ranges are the same if each covers the starts of the other, and ranges that start
together agree. -/
theorem eq_of_covered (h : InOrder start stop found) (h' : InOrder start stop others)
    (hcovered : ∀ item ∈ found, ∃ other ∈ others, start other ≤ start item ∧
      start item < stop other)
    (hcovered' : ∀ other ∈ others, ∃ item ∈ found, start item ≤ start other ∧
      start other < stop item)
    (hsame : ∀ item ∈ found, ∀ other ∈ others, start item = start other → item = other) :
    found = others := by
  have hsame' : ∀ other ∈ others, ∀ item ∈ found, start other = start item → other = item :=
    fun other hother item hitem heq => (hsame item hitem other hother heq.symm).symm
  -- By induction on the place, both lists hold the same ranges that start there.
  have hplaces : ∀ place, (∀ item ∈ found, start item = place → item ∈ others) ∧
      ∀ other ∈ others, start other = place → other ∈ found := by
    intro place
    induction place using Nat.strong_induction_on with
    | _ place ih =>
        constructor
        · rintro item hitem rfl
          exact h.mem_of_covered hsame hitem (hcovered item hitem) fun other hother hlt =>
            (ih _ hlt).2 other hother rfl
        · rintro other hother rfl
          exact h'.mem_of_covered hsame' hother (hcovered' other hother) fun item hitem hlt =>
            (ih _ hlt).1 item hitem rfl
  have hasymm : Std.Antisymm fun item next : α => start item < start next :=
    ⟨fun _ _ hlt hgt => absurd hlt (Nat.lt_asymm hgt)⟩
  have hirrefl : Std.Irrefl fun item next : α => start item < start next :=
    ⟨fun _ => Nat.lt_irrefl _⟩
  exact h.pairwise_start_lt.eq_of_mem_iff h'.pairwise_start_lt fun item =>
    ⟨fun hitem => (hplaces _).1 item hitem rfl, fun hitem => (hplaces _).2 item hitem rfl⟩

end InOrder

/-! ## What a search finds -/

namespace Segmented

variable {recognizer : Recognizer α} {before : Option Char} {text : Text}
  {pieces : List (Segment α)}

theorem inOrder_hitsFrom (h : Segmented recognizer before text pieces) (offset : Nat) :
    InOrder Found.start Found.stop (hitsFrom offset pieces) := by
  induction h generalizing offset with
  | nil => exact .nil
  | plain _ _ ih => exact ih (offset + 1)
  | @hit before value written rest pieces hne hread hrest ih =>
      refine .cons ?_ (fun next hnext => ?_) (ih (offset + written.length))
      · have := List.length_pos_iff.mpr hne
        dsimp only
        omega
      · obtain ⟨left, _, _, -, -, -, hstart, -⟩ := hrest.exists_of_mem_hitsFrom hnext
        rw [hstart]
        exact Nat.le_add_right _ _

/-- Wherever the recognizer accepts, something is found that reaches over the place. -/
theorem exists_hit_at (h : Segmented recognizer before text pieces) (offset : Nat)
    {left right : Text} {c : Char} (htext : text = left ++ c :: right)
    (hread : recognizer (left.getLast?.or before) (c :: right) ≠ none) :
    ∃ found ∈ hitsFrom offset pieces, found.start ≤ offset + left.length ∧
      offset + left.length < found.stop := by
  induction h generalizing offset left with
  | nil => simp at htext
  | @plain before d rest pieces hnone hrest ih =>
      rcases List.cons_eq_append_iff.mp htext with ⟨rfl, heq⟩ | ⟨inner, rfl, rfl⟩
      · cases heq
        exact absurd hnone hread
      · obtain ⟨found, hfound, hrange⟩ :=
          ih (offset + 1) rfl (by rwa [getLast?_cons_or] at hread)
        refine ⟨found, hfound, ?_⟩
        rw [List.length_cons]
        omega
  | @hit before value written rest pieces hne haccepts hrest ih =>
      by_cases hwithin : left.length < written.length
      · refine ⟨_, List.mem_cons_self, Nat.le_add_right _ _, ?_⟩
        dsimp only
        omega
      · -- The place is behind the accepted piece.
        have hfront : written <+: left :=
          List.prefix_of_prefix_length_le ⟨rest, htext⟩ ⟨c :: right, rfl⟩ (by omega)
        obtain ⟨inner, rfl⟩ := hfront
        rw [List.append_assoc, List.append_cancel_left_eq] at htext
        obtain ⟨found, hfound, hrange⟩ :=
          ih (offset + written.length) htext (by rwa [getLast?_append_or hne] at hread)
        refine ⟨found, List.mem_cons_of_mem _ hfound, ?_⟩
        rw [List.length_append]
        omega

end Segmented

end ShaderMarkup
