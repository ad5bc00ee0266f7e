import Mathlib.Data.List.Infix
import ShaderMarkup.Proofs.Reading
import ShaderMarkup.Text.Segment

/-!
# Segmentation as a relation

`segmentsFrom` passes over an accepted piece with a counter, which is good to run and bad to reason
about.  `Segmented recognizer before text pieces` says the same without the counter: the text is cut
either behind a character where the recognizer refuses, or behind the piece that it accepts.

For a recognizer that takes a part of the text off its front (`Recognizer.Advances`) there is
exactly one such list of pieces, and it is `segmentsFrom` (`segmented_segmentsFrom`,
`Segmented.eq`).  Everything else follows by induction on the relation.
-/

namespace ShaderMarkup

variable {α : Type}

/-- What the recognizer accepts is a part of the text in front of the rest, and not empty. -/
def Recognizer.Advances (recognizer : Recognizer α) : Prop :=
  ∀ before text value rest, recognizer before text = some (value, rest) →
    ∃ written, written ≠ [] ∧ text = written ++ rest

/-- The pieces of a text that follows the character `before`. -/
inductive Segmented (recognizer : Recognizer α) :
    Option Char → Text → List (Segment α) → Prop
  | nil {before : Option Char} : Segmented recognizer before [] []
  | plain {before : Option Char} {c : Char} {rest : Text} {pieces : List (Segment α)}
      (hread : recognizer before (c :: rest) = none)
      (hrest : Segmented recognizer (some c) rest pieces) :
      Segmented recognizer before (c :: rest) (.plain c :: pieces)
  | hit {before : Option Char} {value : α} {written rest : Text} {pieces : List (Segment α)}
      (hne : written ≠ []) (hread : recognizer before (written ++ rest) = some (value, rest))
      (hrest : Segmented recognizer written.getLast? rest pieces) :
      Segmented recognizer before (written ++ rest) (.hit value written :: pieces)

/-- Passing characters over is starting behind them. -/
theorem segmentsFrom_skip (recognizer : Recognizer α) (skip : Nat) (before : Option Char)
    (text : Text) :
    segmentsFrom recognizer skip before text
      = segmentsFrom recognizer 0 ((text.take skip).getLast?.or before) (text.drop skip) := by
  induction text generalizing skip before with
  | nil => simp [segmentsFrom]
  | cons c rest ih =>
      cases skip with
      | zero => simp
      | succ skip =>
          rw [segmentsFrom, ih, List.take_succ_cons, List.drop_succ_cons, getLast?_cons_or]

theorem segmentsFrom_of_none {recognizer : Recognizer α} {before : Option Char} {c : Char}
    {rest : Text} (hread : recognizer before (c :: rest) = none) :
    segmentsFrom recognizer 0 before (c :: rest)
      = .plain c :: segmentsFrom recognizer 0 (some c) rest := by
  rw [segmentsFrom, hread]

theorem segmentsFrom_of_some {recognizer : Recognizer α} {before : Option Char} {value : α}
    {written rest : Text} (hne : written ≠ [])
    (hread : recognizer before (written ++ rest) = some (value, rest)) :
    segmentsFrom recognizer 0 before (written ++ rest)
      = .hit value written :: segmentsFrom recognizer 0 written.getLast? rest := by
  cases written with
  | nil => exact absurd rfl hne
  | cons c written =>
      rw [List.cons_append] at hread ⊢
      have hwidth : (c :: (written ++ rest)).length - rest.length = written.length + 1 := by
        simp only [List.length_cons, List.length_append]
        omega
      rw [segmentsFrom, hread]
      dsimp only
      rw [hwidth, Nat.add_sub_cancel, segmentsFrom_skip, List.take_succ_cons, List.take_left,
        List.drop_left, ← getLast?_cons_or c written none, Option.or_none]

/-- The segments that are computed are those of the relation. -/
theorem segmented_segmentsFrom {recognizer : Recognizer α} (hadvances : recognizer.Advances)
    (before : Option Char) (text : Text) :
    Segmented recognizer before text (segmentsFrom recognizer 0 before text) := by
  induction hlength : text.length using Nat.strong_induction_on generalizing before text with
  | _ length ih =>
      subst hlength
      cases text with
      | nil => exact .nil
      | cons c rest =>
          cases hread : recognizer before (c :: rest) with
          | none =>
              rw [segmentsFrom_of_none hread]
              exact .plain hread (ih rest.length (by simp) (some c) rest rfl)
          | some result =>
              obtain ⟨value, remaining⟩ := result
              obtain ⟨written, hne, hsplit⟩ := hadvances before (c :: rest) value remaining hread
              rw [hsplit] at hread ⊢
              rw [segmentsFrom_of_some hne hread]
              refine .hit hne hread (ih remaining.length ?_ written.getLast? remaining rfl)
              rw [hsplit, List.length_append]
              have := List.length_pos_iff.mpr hne
              omega

theorem segmented_segments {recognizer : Recognizer α} (hadvances : recognizer.Advances)
    (text : Text) : Segmented recognizer none text (segments recognizer text) :=
  segmented_segmentsFrom hadvances none text

namespace Segmented

variable {recognizer : Recognizer α} {before : Option Char} {text : Text}
  {pieces : List (Segment α)}

/-- A text has only one segmentation. -/
theorem eq (h : Segmented recognizer before text pieces) :
    pieces = segmentsFrom recognizer 0 before text := by
  induction h with
  | nil => rfl
  | plain hread _ ih => rw [segmentsFrom_of_none hread, ih]
  | hit hne hread _ ih => rw [segmentsFrom_of_some hne hread, ih]

theorem flatMap_text (h : Segmented recognizer before text pieces) :
    pieces.flatMap Segment.text = text := by
  induction h with
  | nil => rfl
  | plain _ _ ih => rw [List.flatMap_cons, ih, Segment.text, List.singleton_append]
  | hit _ _ _ ih => rw [List.flatMap_cons, ih, Segment.text]

/-- What is found stands at its range, and the recognizer accepts it there. -/
theorem exists_of_mem_hitsFrom (h : Segmented recognizer before text pieces) {offset : Nat}
    {found : Found α} (hmem : found ∈ hitsFrom offset pieces) :
    ∃ left written right, text = left ++ (written ++ right) ∧ written ≠ [] ∧
      recognizer (left.getLast?.or before) (written ++ right) = some (found.value, right) ∧
      found.start = offset + left.length ∧ found.stop = found.start + written.length := by
  induction h generalizing offset with
  | nil => cases hmem
  | @plain before c rest pieces hread hrest ih =>
      obtain ⟨left, written, right, rfl, hne, haccepts, hstart, hstop⟩ := ih hmem
      refine ⟨c :: left, written, right, rfl, hne, by rwa [getLast?_cons_or], ?_, hstop⟩
      rw [hstart, List.length_cons]
      omega
  | @hit before value front rest pieces hne hread hrest ih =>
      rcases List.mem_cons.mp hmem with rfl | hmem
      · exact ⟨[], front, rest, rfl, hne, hread, rfl, rfl⟩
      · obtain ⟨left, written, right, rfl, hne', haccepts, hstart, hstop⟩ := ih hmem
        refine ⟨front ++ left, written, right, by simp, hne', ?_, ?_, hstop⟩
        · rwa [getLast?_append_or hne]
        · rw [hstart, List.length_append, Nat.add_assoc]

end Segmented

/-! ## Found places -/

/-- What `searchAll` finds stands at its range, and the recognizer accepts it there. -/
theorem exists_of_mem_searchAll {recognizer : Recognizer α} (hadvances : recognizer.Advances)
    {text : Text} {found : Found α} (h : found ∈ searchAll recognizer text) :
    ∃ left written right, text = left ++ (written ++ right) ∧ written ≠ [] ∧
      recognizer left.getLast? (written ++ right) = some (found.value, right) ∧
      found.start = left.length ∧ found.stop = found.start + written.length := by
  obtain ⟨left, written, right, htext, hne, hread, hstart, hstop⟩ :=
    (segmented_segments hadvances text).exists_of_mem_hitsFrom h
  rw [Option.or_none] at hread
  rw [Nat.zero_add] at hstart
  exact ⟨left, written, right, htext, hne, hread, hstart, hstop⟩

/-- The value of a segment that was accepted. -/
def Segment.value? : Segment α → Option α
  | .plain _ => none
  | .hit value _ => some value

/-- What is found does not depend on where it is found. -/
theorem map_value_hitsFrom (offset : Nat) (pieces : List (Segment α)) :
    (hitsFrom offset pieces).map (·.value) = pieces.filterMap Segment.value? := by
  induction pieces generalizing offset with
  | nil => rfl
  | cons piece rest ih =>
      cases piece with
      | plain c => exact ih (offset + 1)
      | hit value written => simp [hitsFrom, Segment.value?, ih]

@[simp] theorem filterMap_value?_plain (text : Text) :
    (text.map (.plain : Char → Segment α)).filterMap Segment.value? = [] := by
  simp [List.filterMap_map, Segment.value?]

end ShaderMarkup
