import ShaderMarkup.Source.Function

/-!
# Regions

Functions and blocks in braces are sealed: they are copied as they stand.  What lies between them
is open and takes its plain form.
-/

namespace ShaderMarkup

/-- A stretch of source, sealed or open. -/
structure Region where
  text : Text
  isSealed : Bool
deriving DecidableEq

/-- Reads a sealed stretch: a block, or a function with its keyword at the start of a word. -/
def sealedText : Recognizer Unit :=
  fun before text =>
    match text with
    | '\x7b' :: _ => throughBlock text
    | _ => atWordStart functionText before text

/-- The regions of a list of segments; neighbouring characters outside sealed stretches form one
open region. -/
def joinRegions : List (Segment Unit) → List Region
  | [] => []
  | .hit _ written :: rest => ⟨written, true⟩ :: joinRegions rest
  | .plain c :: rest =>
      match joinRegions rest with
      | ⟨text, false⟩ :: others => ⟨c :: text, false⟩ :: others
      | others => ⟨[c], false⟩ :: others

@[simp] theorem flatMap_text_joinRegions (pieces : List (Segment Unit)) :
    (joinRegions pieces).flatMap Region.text = pieces.flatMap Segment.text := by
  induction pieces with
  | nil => rfl
  | cons piece rest ih =>
      cases piece with
      | hit value written => simp [joinRegions, Segment.text, ih]
      | plain c =>
          rw [joinRegions]
          split
          next text others heq => simp [heq, Segment.text, ← ih]
          next => simp [Segment.text, ← ih]

/-- The source cut into sealed and open regions. -/
def regions (code : Text) : List Region :=
  joinRegions (segments sealedText code)

end ShaderMarkup
