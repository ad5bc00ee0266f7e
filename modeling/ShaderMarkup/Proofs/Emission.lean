import ShaderMarkup.Emission
import ShaderMarkup.Proofs.Outcome

/-!
# Emission, region by region

`plainRegions` is a loop over the regions of a source, and what it does to a region depends on the
text in front only through the question whether a line starts there.  `plainRegion` is one round of
the loop, `plainRegions_cons` unrolls it, and `exists_of_plainRegions_cons` takes a run apart that
comes to its end.  Sealed regions are copied, so all that emission does happens in the pieces of
open regions (`openPieces`).
-/

namespace ShaderMarkup

/-- The pieces of a source that are given their plain form. -/
def openPieces (code : Text) : List Text :=
  (regions code).flatMap fun region => if region.isSealed then [] else semicolonPieces region.text

theorem mem_openPieces {code piece : Text} :
    piece ∈ openPieces code ↔
      ∃ region ∈ regions code, region.isSealed = false ∧ piece ∈ semicolonPieces region.text := by
  simp only [openPieces, List.mem_flatMap]
  refine exists_congr fun region => and_congr_right fun _ => ?_
  cases region.isSealed <;> simp

/-- Whether a line starts behind the text, or no text stands in front. -/
def startsLine (before : Option Text) : Bool :=
  before.all fun text => text.getLast? = some '\n'

section Region

variable (kind : ShaderKind) (workgroup : Option Extent) (slotOf : Text → Option Slot)

/-- The plain form of a region. -/
def plainRegion (atLineStart : Bool) (region : Region) : Check Text :=
  if region.isSealed then .ok region.text
  else plainOpen kind workgroup slotOf atLineStart region.text

theorem plainRegions_cons (before : Option Text) (region : Region) (rest : List Region) :
    plainRegions kind workgroup slotOf before (region :: rest) = (do
      let text ← plainRegion kind workgroup slotOf (startsLine before) region
      let others ← plainRegions kind workgroup slotOf (some text) rest
      pure (text :: others)) := by
  rw [plainRegions, plainRegion, startsLine]
  cases region.isSealed <;> rfl

variable {kind workgroup slotOf}

theorem plainRegion_of_open {atLineStart : Bool} {region : Region}
    (h : region.isSealed = false) : plainRegion kind workgroup slotOf atLineStart region
      = plainOpen kind workgroup slotOf atLineStart region.text := by
  simp [plainRegion, h]

/-- A round of the loop that comes to its end: the plain form of the first region is there, and the
others are emitted behind it. -/
theorem exists_of_plainRegions_cons {before : Option Text} {region : Region} {rest : List Region}
    {texts : List Text}
    (h : plainRegions kind workgroup slotOf before (region :: rest) = .ok texts) :
    ∃ text others, texts = text :: others ∧
      plainRegion kind workgroup slotOf (startsLine before) region = .ok text ∧
      plainRegions kind workgroup slotOf (some text) rest = .ok others := by
  rw [plainRegions_cons] at h
  obtain ⟨text, htext, h⟩ := bind_eq_ok_iff.mp h
  obtain ⟨others, hothers, h⟩ := bind_eq_ok_iff.mp h
  cases h
  exact ⟨text, others, rfl, htext, hothers⟩

/-- The texts that emission puts together are the plain forms of the regions, one by one. -/
theorem forall₂_plainRegions {before : Option Text} {stretches : List Region}
    {texts : List Text} (h : plainRegions kind workgroup slotOf before stretches = .ok texts) :
    List.Forall₂ (fun region text => ∃ atLineStart,
      plainRegion kind workgroup slotOf atLineStart region = .ok text) stretches texts := by
  induction stretches generalizing before texts with
  | nil =>
      cases h
      exact .nil
  | cons region rest ih =>
      obtain ⟨text, others, rfl, htext, hothers⟩ := exists_of_plainRegions_cons h
      exact .cons ⟨_, htext⟩ (ih hothers)

/-- Every region has its plain form among the texts that emission puts together. -/
theorem exists_of_mem_plainRegions {before : Option Text} {stretches : List Region}
    {texts : List Text} (h : plainRegions kind workgroup slotOf before stretches = .ok texts)
    {region : Region} (hmem : region ∈ stretches) :
    ∃ atLineStart, ∃ text ∈ texts,
      plainRegion kind workgroup slotOf atLineStart region = .ok text := by
  obtain ⟨text, htext, atLineStart, hplain⟩ :=
    exists_of_mem_of_forall₂ (forall₂_plainRegions h) hmem
  exact ⟨atLineStart, text, htext, hplain⟩

/-- Slots that give every open piece the same plain form give all regions the same. -/
theorem plainRegions_congr {other : Text → Option Slot} {before : Option Text}
    {stretches : List Region}
    (h : ∀ region ∈ stretches, region.isSealed = false → ∀ piece ∈ semicolonPieces region.text,
      plainPiece kind workgroup slotOf piece = plainPiece kind workgroup other piece) :
    plainRegions kind workgroup slotOf before stretches
      = plainRegions kind workgroup other before stretches := by
  induction stretches generalizing before with
  | nil => rfl
  | cons region rest ih =>
      have hrest (last : Option Text) : plainRegions kind workgroup slotOf last rest
          = plainRegions kind workgroup other last rest :=
        ih fun stretch hstretch => h stretch (List.mem_cons_of_mem _ hstretch)
      have hfirst : plainRegion kind workgroup slotOf (startsLine before) region
          = plainRegion kind workgroup other (startsLine before) region := by
        cases hsealed : region.isSealed with
        | true => simp [plainRegion, hsealed]
        | false =>
            rw [plainRegion_of_open hsealed, plainRegion_of_open hsealed, plainOpen, plainOpen,
              mapM_congr (h region (by simp) hsealed)]
      simp only [plainRegions_cons, hfirst, hrest]

end Region

/-- Resources whose slots give every open piece the same plain form give the same code. -/
theorem emit_congr {code : Text} {resources others : List Resource} {kind : ShaderKind}
    {entry : Option EntryPoint}
    (h : ∀ piece ∈ openPieces code,
      plainPiece kind (entry.bind EntryPoint.workgroup?) (slotNamed? resources) piece
        = plainPiece kind (entry.bind EntryPoint.workgroup?) (slotNamed? others) piece) :
    emit code resources kind entry = emit code others kind entry := by
  unfold emit
  dsimp only
  rw [plainRegions_congr fun region hregion hopen piece hpiece =>
    h piece (mem_openPieces.mpr ⟨region, hregion, hopen, hpiece⟩)]

end ShaderMarkup
