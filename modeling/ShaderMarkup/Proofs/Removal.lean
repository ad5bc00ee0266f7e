import ShaderMarkup.Decorator.Removal
import ShaderMarkup.Proofs.Range
import ShaderMarkup.Proofs.Spacing

/-!
# Removal as a loop

Removal goes in rounds.  A round finds the calls of the chosen names and cuts their ranges out, from
the last one to the first, so that the ranges in front keep their places (`cutOut`).  What is left
may hold calls that were not there before, and the next round finds these.  `Removes` is a run of
such rounds, up to a text without chosen calls.

* One round (`removeOnce_eq_cutOut`): the ranges are in order, so what is cut out is the chosen
  calls and nothing else.  Characters go and none comes (`cutOut_sublist`), and at least one goes.
* A run: the text gets shorter with every round, so there are at most as many rounds as characters
  (`exists_removes`).  What a run ends with is a subsequence of the text without chosen calls.
-/

namespace ShaderMarkup

open scoped List

/-- The calls of a text whose names are chosen. -/
def chosenCalls (chosen : Text → Bool) (text : Text) : List Call :=
  (calls text).filter fun call => chosen call.value.name

/-- The text without the ranges of the calls, taken out from the last one to the first. -/
def cutOut (found : List Call) (text : Text) : Text :=
  found.foldr (fun call kept => kept.take call.start ++ kept.drop call.stop) text

/-- A run of removal in so many rounds, from a text to what is left of it. -/
inductive Removes (chosen : Text → Bool) : Nat → Text → Text → Prop
  | done {text : Text} (hnone : chosenCalls chosen text = []) : Removes chosen 0 text text
  | round {rounds : Nat} {text result : Text} (hsome : chosenCalls chosen text ≠ [])
      (hrest : Removes chosen rounds (cutOut (chosenCalls chosen text) text) result) :
      Removes chosen (rounds + 1) text result

variable {chosen : Text → Bool} {rounds : Nat} {text result : Text}

theorem chosenCalls_eq_nil_iff :
    chosenCalls chosen text = [] ↔ ∀ call ∈ calls text, chosen call.value.name = false := by
  simp only [chosenCalls, List.filter_eq_nil_iff, Bool.not_eq_true]

/-! ## One round -/

theorem cut_sublist {start stop : Nat} (h : start ≤ stop) (text : Text) :
    text.take start ++ text.drop stop <+ text := by
  have hdrop : text.drop stop <+ text.drop start :=
    (List.drop_suffix_drop_left text h).sublist
  calc text.take start ++ text.drop stop
      <+ text.take start ++ text.drop start := hdrop.append_left _
    _ = text := List.take_append_drop start text

theorem cutOut_sublist {found : List Call} (h : ∀ call ∈ found, call.start ≤ call.stop)
    (text : Text) : cutOut found text <+ text := by
  induction found with
  | nil => exact .refl _
  | cons call found ih =>
      rw [List.forall_mem_cons] at h
      exact (cut_sublist h.1 _).trans (ih h.2)

/-- What removal keeps of a segment. -/
def keptText (chosen : Text → Bool) : Segment Decorator → Text
  | .plain c => [c]
  | .hit decorator written => if chosen decorator.name then [] else written

theorem removeOnce_eq (chosen : Text → Bool) (text : Text) :
    removeOnce chosen text = (decoratorSegments text).flatMap (keptText chosen) := by
  unfold removeOnce keptText
  rfl

/-- Behind a front that is kept, the ranges of the segments are cut out of their text. -/
theorem Segmented.cutOut_hitsFrom {before : Option Char} {pieces : List (Segment Decorator)}
    (h : Segmented (anywhere Decorator.read) before text pieces) (front : Text) :
    cutOut ((hitsFrom front.length pieces).filter fun call => chosen call.value.name)
        (front ++ text)
      = front ++ pieces.flatMap (keptText chosen) := by
  induction h generalizing front with
  | nil => rfl
  | @plain before c rest pieces _ _ ih =>
      have hbehind := ih (front ++ [c])
      rw [List.length_append, List.length_singleton, List.append_assoc, List.append_assoc]
        at hbehind
      exact hbehind
  | @hit before decorator written rest pieces _ _ _ ih =>
      have hbehind := ih (front ++ written)
      rw [List.length_append, List.append_assoc] at hbehind
      rw [hitsFrom, List.flatMap_cons, keptText]
      cases hchosen : chosen decorator.name with
      | false =>
          rw [List.filter_cons_of_neg (by simpa using hchosen), hbehind, List.append_assoc]
          rfl
      | true =>
          -- The ranges behind are out already, and this one still stands where it was found.
          rw [List.filter_cons_of_pos (by exact hchosen), cutOut, List.foldr_cons, ← cutOut,
            hbehind]
          simp

/-- One round cuts out the calls of the chosen names. -/
theorem removeOnce_eq_cutOut (chosen : Text → Bool) (text : Text) :
    removeOnce chosen text = cutOut (chosenCalls chosen text) text := by
  rw [removeOnce_eq]
  exact ((segmented_segments Decorator.advances_read text).cutOut_hitsFrom []).symm

theorem removeOnce_sublist (chosen : Text → Bool) (text : Text) :
    removeOnce chosen text <+ text := by
  rw [removeOnce_eq_cutOut]
  refine cutOut_sublist (fun call hcall => ?_) text
  have hinOrder := (segmented_segments Decorator.advances_read text).inOrder_hitsFrom 0
  exact Nat.le_of_lt (hinOrder.nonempty call (List.mem_filter.mp hcall).1)

/-! ## A run -/

namespace Removes

theorem sublist (h : Removes chosen rounds text result) : result <+ text := by
  induction h with
  | done _ => exact .refl _
  | @round _ text _ _ _ ih =>
      rw [← removeOnce_eq_cutOut] at ih
      exact ih.trans (removeOnce_sublist chosen text)

theorem chosenCalls_result (h : Removes chosen rounds text result) :
    chosenCalls chosen result = [] := by
  induction h with
  | done hnone => exact hnone
  | round _ _ ih => exact ih

theorem eq_of_chosenCalls_eq_nil (h : Removes chosen rounds text result)
    (hnone : chosenCalls chosen text = []) : result = text := by
  cases h with
  | done _ => rfl
  | round hsome _ => exact absurd hnone hsome

end Removes

/-- Removal with as many rounds as the text has characters runs to its end. -/
theorem exists_removes_removeWithin (h : text.length ≤ rounds) :
    ∃ made ≤ rounds, Removes chosen made text (removeWithin chosen rounds text) := by
  induction rounds generalizing text with
  | zero =>
      rw [List.length_eq_zero_iff.mp (Nat.le_zero.mp h)]
      exact ⟨0, Nat.le_refl 0, .done rfl⟩
  | succ rounds ih =>
      rw [removeWithin]
      split
      next hany =>
        obtain ⟨call, hcall, hchosen⟩ := List.any_eq_true.mp hany
        have hsome : chosenCalls chosen text ≠ [] :=
          List.ne_nil_of_mem (List.mem_filter.mpr ⟨hcall, hchosen⟩)
        have hshorter := length_removeOnce_lt hany
        obtain ⟨made, hmade, hrest⟩ := @ih (removeOnce chosen text) (by omega)
        exact ⟨made + 1, Nat.succ_le_succ hmade,
          .round hsome (by rwa [← removeOnce_eq_cutOut])⟩
      next hany =>
        refine ⟨0, Nat.zero_le _, .done (chosenCalls_eq_nil_iff.mpr ?_)⟩
        simpa using hany

/-- Removal ends, after at most as many rounds as the text has characters.  What is left is a
subsequence of the text without chosen calls.  It is the whole text if that has none, and removing
again changes nothing. -/
theorem removeDecorators_ends_clean (chosen : Text → Bool) (text : Text) :
    (∃ rounds ≤ text.length, Removes chosen rounds text (removeDecorators chosen text)) ∧
      removeDecorators chosen text <+ text ∧
      (∀ call ∈ calls (removeDecorators chosen text), chosen call.value.name = false) ∧
      (removeDecorators chosen text = text ↔
        ∀ call ∈ calls text, chosen call.value.name = false) ∧
      removeDecorators chosen (removeDecorators chosen text) = removeDecorators chosen text := by
  have hrun : ∀ text, ∃ rounds ≤ text.length,
      Removes chosen rounds text (removeDecorators chosen text) := fun text =>
    exists_removes_removeWithin (Nat.le_refl text.length)
  have hkeeps : ∀ {text}, chosenCalls chosen text = [] → removeDecorators chosen text = text := by
    intro text hnone
    obtain ⟨_, -, hremoves⟩ := hrun text
    exact hremoves.eq_of_chosenCalls_eq_nil hnone
  obtain ⟨rounds, hrounds, hremoves⟩ := hrun text
  have hclean := hremoves.chosenCalls_result
  refine ⟨⟨rounds, hrounds, hremoves⟩, hremoves.sublist, chosenCalls_eq_nil_iff.mp hclean,
    ⟨fun heq => ?_, fun hnone => ?_⟩, hkeeps hclean⟩
  · rw [heq] at hclean
    exact chosenCalls_eq_nil_iff.mp hclean
  · exact hkeeps (chosenCalls_eq_nil_iff.mpr hnone)

-- Cutting out a call joins what stands on its two sides into a new one.
example : removeOnce (· = ['a']) "@@a(1)a b".toList = "@a b".toList ∧
    removeDecorators (· = ['a']) "@@a(1)a b".toList = " b".toList := by
  decide +kernel

end ShaderMarkup
