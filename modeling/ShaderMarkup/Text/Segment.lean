import ShaderMarkup.Text.Reader

/-!
# Segments

A recognizer cuts a text into segments: from left to right, the first place where it accepts is a
segment of its own, the next is sought behind it, and every character outside is a segment by
itself.  Nothing is lost: where the recognizer takes at least one character whenever it accepts,
the segments' texts put together are the text (`flatMap_text_segments`).

`segmentsFrom` recurses on the text itself.  The characters of an accepted segment are passed over
by a counter, so no argument about decreasing lengths is needed.
-/

namespace ShaderMarkup

variable {α : Type}

/-- A piece of a text: one character that belongs to nothing, or an accepted piece with its
value. -/
inductive Segment (α : Type) where
  | plain (c : Char)
  | hit (value : α) (text : Text)
deriving DecidableEq

/-- The characters of the segment. -/
def Segment.text : Segment α → Text
  | .plain c => [c]
  | .hit _ text => text

/-- The segments behind the next `skip` characters, where `before` stands in front of the text. -/
def segmentsFrom (recognizer : Recognizer α) : Nat → Option Char → Text → List (Segment α)
  | _, _, [] => []
  | skip + 1, _, c :: rest => segmentsFrom recognizer skip (some c) rest
  | 0, before, c :: rest =>
      match recognizer before (c :: rest) with
      | some (value, remaining) =>
          .hit value ((c :: rest).take ((c :: rest).length - remaining.length))
            :: segmentsFrom recognizer ((c :: rest).length - remaining.length - 1) (some c) rest
      | none => .plain c :: segmentsFrom recognizer 0 (some c) rest

/-- The segments of a text. -/
def segments (recognizer : Recognizer α) (text : Text) : List (Segment α) :=
  segmentsFrom recognizer 0 none text

/-- A recognizer that takes at least one character whenever it accepts. -/
def Recognizer.Consumes (recognizer : Recognizer α) : Prop :=
  ∀ before text value rest, recognizer before text = some (value, rest) →
    rest.length < text.length

theorem flatMap_text_segmentsFrom {recognizer : Recognizer α} (hconsumes : recognizer.Consumes)
    (skip : Nat) (before : Option Char) (text : Text) :
    (segmentsFrom recognizer skip before text).flatMap Segment.text = text.drop skip := by
  induction text generalizing skip before with
  | nil => simp [segmentsFrom]
  | cons c rest ih =>
      cases skip with
      | succ skip => simp [segmentsFrom, ih]
      | zero =>
          rw [segmentsFrom]
          split
          next value remaining hread =>
            have hlt := hconsumes before (c :: rest) value remaining hread
            simp only [List.length_cons] at hlt
            have hwidth : rest.length + 1 - remaining.length
                = (rest.length + 1 - remaining.length - 1) + 1 := by omega
            simp only [List.flatMap_cons, Segment.text, ih, List.length_cons, List.drop_zero]
            rw [hwidth, List.take_succ_cons, List.cons_append, Nat.add_sub_cancel,
              List.take_append_drop]
          next => simp [Segment.text, ih]

theorem flatMap_text_segments {recognizer : Recognizer α} (hconsumes : recognizer.Consumes)
    (text : Text) : (segments recognizer text).flatMap Segment.text = text := by
  simp [segments, flatMap_text_segmentsFrom hconsumes]

/-- The accepted pieces among segments that start at `offset`, each with its range. -/
def hitsFrom : Nat → List (Segment α) → List (Found α)
  | _, [] => []
  | offset, .plain _ :: rest => hitsFrom (offset + 1) rest
  | offset, .hit value text :: rest =>
      ⟨value, offset, offset + text.length⟩ :: hitsFrom (offset + text.length) rest

/-- The places where the recognizer accepts, from left to right and without overlap. -/
def searchAll (recognizer : Recognizer α) (text : Text) : List (Found α) :=
  hitsFrom 0 (segments recognizer text)

end ShaderMarkup
