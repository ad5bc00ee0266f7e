import Mathlib.Algebra.Ring.Nat
import ShaderMarkup.Proofs.PlainForm
import ShaderMarkup.Proofs.Tidying

/-!
# Workgroup sizes

A compute shader gets the workgroup size of its entry point behind every stage `@compute(…)`, and
the sizes that are written go.  The stage `@compute` without an argument is plain shader code
already: it gets no size, but loses the one that is written.  So the plain form of an open region
has one size for each stage except the bare ones (`workgroup_size_per_filled_stage`).

The count is made on the segments of the region: those of its pieces in a row
(`exists_of_plainPieces`), which the tidying of white space keeps (`exists_of_plainOpen`).
-/

namespace ShaderMarkup

open Segment (join)

/-! ## The pieces of an open region -/

/-- The number of decorators of the name in the plain form of a piece. -/
def countInPiece (kind : ShaderKind) (workgroup : Option Extent) (name piece : Text) : Nat :=
  if IsClosed piece then
    (entryDecorators kind workgroup piece).countP fun decorator => decorator.name = name
  else 0

section Pieces

variable {kind : ShaderKind} {workgroup : Option Extent} {slotOf : Text → Option Slot}

/-- The plain form of a piece, in front of anything if the piece ends with a semicolon. -/
theorem exists_of_plainPiece_before {piece text : Text}
    (hloose : IsClosed piece → LooseApart (isLoose kind workgroup) [] piece)
    (h : plainPiece kind workgroup slotOf piece = .ok text) {after : Text}
    (hend : piece.getLast? = some ';' ∨ after = []) :
    ∃ bound, join bound = text ∧ StandApart (isLooseEntry workgroup) after bound ∧
      (text.getLast? = some '@' → after = []) ∧ ∀ name, isSlotWord name = false →
        countNamed name bound = countInPiece kind workgroup name piece := by
  by_cases hclosed : IsClosed piece
  · obtain ⟨bound, hbound, hapart, hlast, hcount⟩ := exists_of_plainPiece hclosed (hloose hclosed) h
    refine ⟨bound, hbound, ?_, fun hmark => ?_, fun name hname => ?_⟩
    · rcases hend with hend | rfl
      · exact hapart.of_semicolon (by rw [hbound, hlast hend]) after
      · exact hapart
    · rcases hend with hend | hnil
      · rw [hlast hend] at hmark
        cases hmark
      · exact hnil
    · rw [hcount name hname, countInPiece, if_pos hclosed]
  · -- Of the piece only white space is left.
    rw [plainPiece_of_not_isClosed hclosed] at h
    cases h
    have hmark : '@' ∉ piece.takeWhile isBlank := fun hmem =>
      absurd (List.mem_takeWhile_imp hmem) (by decide)
    refine ⟨(piece.takeWhile isBlank).map .plain, join_map_plain _, ?_, fun hlast => ?_,
      fun name _ => ?_⟩
    · rw [← List.append_nil (List.map _ _)]
      exact standApart_map_plain_append hmark trivial
    · exact absurd (List.mem_of_getLast? hlast) hmark
    · rw [countNamed_map_plain, countInPiece, if_neg hclosed]

/-- The plain forms of pieces in a row, of which all but the last end with a semicolon. -/
theorem exists_of_plainPieces {pieces texts : List Text}
    (hends : ∀ piece ∈ pieces.dropLast, piece.getLast? = some ';')
    (hloose : ∀ piece ∈ pieces, IsClosed piece → LooseApart (isLoose kind workgroup) [] piece)
    (h : pieces.mapM (plainPiece kind workgroup slotOf) = .ok texts) :
    ∃ bound, join bound = texts.flatten ∧ StandApart (isLooseEntry workgroup) [] bound ∧
      ∀ name, isSlotWord name = false →
        countNamed name bound = (pieces.map (countInPiece kind workgroup name)).sum := by
  induction pieces generalizing texts with
  | nil =>
      cases h
      exact ⟨[], rfl, trivial, fun _ _ => rfl⟩
  | cons piece pieces ih =>
      obtain ⟨text, others, rfl, htext, hothers⟩ := exists_of_mapM_cons_eq_ok h
      rw [List.forall_mem_cons] at hloose
      obtain ⟨hfirst, hends⟩ := getLast?_of_dropLast_cons hends
      obtain ⟨back, hback, hapart, hcount⟩ := ih hends hloose.2 hothers
      have hend : piece.getLast? = some ';' ∨ join back ++ [] = [] := by
        rcases hfirst with rfl | hsemicolon
        · cases hothers
          exact Or.inr (by simp [hback])
        · exact Or.inl hsemicolon
      obtain ⟨front, hfront, hapart', hmark, hcount'⟩ :=
        exists_of_plainPiece_before hloose.1 htext hend
      refine ⟨front ++ back, ?_, ?_, fun name hname => ?_⟩
      · rw [join_append, hfront, hback, List.flatten_cons]
      · refine hapart'.append hapart fun hlast => ?_
        rw [hfront] at hlast
        rw [← List.append_nil (join back), hmark hlast]
        simp
      · rw [countNamed_append, hcount' name hname, hcount name hname, List.map_cons, List.sum_cons]

/-- The plain form of an open region whose loose decorators are detached. -/
theorem exists_of_plainOpen {atLineStart : Bool} {text plain : Text}
    (hloose : ∀ piece ∈ semicolonPieces text, IsClosed piece →
      LooseApart (isLoose kind workgroup) [] piece)
    (h : plainOpen kind workgroup slotOf atLineStart text = .ok plain) :
    ∃ bound, join bound = plain ∧ StandApart (isLooseEntry workgroup) [] bound ∧
      ∀ name, isSlotWord name = false → countNamed name bound
        = ((semicolonPieces text).map (countInPiece kind workgroup name)).sum := by
  obtain ⟨texts, htexts, h⟩ := bind_eq_ok_iff.mp h
  cases h
  obtain ⟨bound, hbound, hapart, hcount⟩ :=
    exists_of_plainPieces (semicolonPieces_dropLast text) hloose htexts
  obtain ⟨squeezed, hsqueezed, hapart, hcount'⟩ := isRespacer_squeeze.exists_of_join hapart false
  obtain ⟨tidied, htidied, hapart, hcount''⟩ :=
    isRespacer_dropIndent.exists_of_join hapart atLineStart
  refine ⟨tidied, ?_, hapart, fun name hname => ?_⟩
  · rw [htidied, hsqueezed, hbound, unindent_eq_dropIndent]
  · rw [hcount'', hcount', hcount name hname]

end Pieces

/-! ## Stages and sizes -/

/-- The number of decorators of the name that stand in no other's argument. -/
def countCalls (name : String) (text : Text) : Nat :=
  (calls text).countP fun call => call.value.name = name.toList

theorem countCalls_join {loose : Text → Bool} {after : Text} {pieces : List (Segment Decorator)}
    (h : StandApart loose after pieces) (name : String) :
    countCalls name (join pieces) = countNamed name.toList pieces := by
  have hvalues := map_value_calls (join pieces)
  rw [decoratorSegments_join h] at hvalues
  rw [countNamed, ← hvalues, List.countP_map, countCalls]
  rfl

/-- Whether the decorator is the stage `@compute` without an argument. -/
def Decorator.isBareCompute (decorator : Decorator) : Bool :=
  decorator.name = "compute".toList && decorator.argument.isNone

/-- The number of stages `@compute` without an argument in the pieces of an open region, those with
an unclosed decorator aside. -/
def bareStages (text : Text) : Nat :=
  ((semicolonPieces text).map fun piece =>
    if IsClosed piece then (calls piece).countP fun call => call.value.isBareCompute else 0).sum

theorem countP_singleton_of_ne {decorator : Decorator} {name : Text} (h : decorator.name ≠ name) :
    [decorator].countP (fun other => other.name = name) = 0 := by
  simp [h]

theorem countP_plainDecorators (size : Extent) {decorator : Decorator}
    (hname : decorator.name ≠ "workgroup_size".toList) :
    (plainDecorators (some size) decorator).countP (fun other => other.name = "compute".toList)
      = (plainDecorators (some size) decorator).countP
          (fun other => other.name = "workgroup_size".toList)
        + if decorator.isBareCompute then 1 else 0 := by
  unfold plainDecorators Decorator.isBareCompute
  cases decorator.argument with
  | none =>
      simp only [Option.isNone_none, if_true, List.countP_singleton, decide_eq_true_eq,
        Bool.and_true, if_neg hname, Nat.zero_add]
  | some argument =>
      simp only [Option.isNone_some, Bool.false_eq_true, if_false, Bool.and_false]
      split
      next => rfl
      next hcompute =>
        split
        next => rfl
        next => rw [countP_singleton_of_ne hcompute, countP_singleton_of_ne hname]

/-- In a piece of a compute shader every stage but the bare ones gets a size. -/
theorem countInPiece_compute (size : Extent) (piece : Text) :
    countInPiece .compute (some size) "compute".toList piece
      = countInPiece .compute (some size) "workgroup_size".toList piece
        + if IsClosed piece then (calls piece).countP fun call => call.value.isBareCompute
          else 0 := by
  unfold countInPiece
  split
  next =>
    have hvalues : (calls piece).countP (fun call => call.value.isBareCompute)
        = ((calls piece).map (·.value)).countP Decorator.isBareCompute := by
      rw [List.countP_map]
      rfl
    rw [hvalues, entryDecorators]
    induction (calls piece).map (·.value) with
    | nil => rfl
    | cons decorator rest ih =>
        rw [List.filter_cons, List.countP_cons]
        cases hmarkup : isMarkup .compute decorator.name with
        | true =>
            have hbare : decorator.isBareCompute = false := by
              rw [Decorator.isBareCompute, Bool.and_eq_false_iff]
              refine Or.inl (decide_eq_false ?_)
              intro hname
              rw [hname] at hmarkup
              cases hmarkup
            rw [if_neg (by simp), hbare, if_neg (by decide), Nat.add_zero]
            exact ih
        | false =>
            have hname : decorator.name ≠ "workgroup_size".toList := by
              intro hname
              rw [hname] at hmarkup
              cases hmarkup
            rw [if_pos (by simp), List.flatMap_cons, List.countP_append, List.countP_append,
              countP_plainDecorators size hname, ih]
            omega
  next => rfl

/-- The loose decorators of an open region are detached, in its pieces without unclosed ones. -/
def Region.StandsApart (kind : ShaderKind) (workgroup : Option Extent) (region : Region) : Prop :=
  ∀ piece ∈ semicolonPieces region.text, IsClosed piece →
    LooseApart (isLoose kind workgroup) [] piece

instance (kind : ShaderKind) (workgroup : Option Extent) (region : Region) :
    Decidable (region.StandsApart kind workgroup) :=
  inferInstanceAs (Decidable (∀ piece ∈ semicolonPieces region.text, _))

/-- In the plain form of every open region of a compute shader there is one workgroup size for each
stage, except for those that are written without an argument. -/
theorem workgroup_size_per_filled_stage {code plain : Text} {resources : List Resource}
    {entry : ComputeEntry} (h : emit code resources .compute (some (.compute entry)) = .ok plain) :
    ∃ texts, plain = tidyLines texts.flatten ∧
      List.Forall₂ (fun region text =>
        (∃ atLineStart, plainRegion .compute (some entry.workgroupSize) (slotNamed? resources)
          atLineStart region = .ok text) ∧
        (region.isSealed = false → region.StandsApart .compute (some entry.workgroupSize) →
          countCalls "compute" text
            = countCalls "workgroup_size" text + bareStages region.text)) (regions code) texts := by
  obtain ⟨texts, htexts, h⟩ := bind_eq_ok_iff.mp h
  cases h
  refine ⟨texts, rfl, (forall₂_plainRegions htexts).imp ?_⟩
  rintro region text ⟨atLineStart, hplain⟩
  refine ⟨⟨atLineStart, hplain⟩, fun hopen hapart => ?_⟩
  rw [plainRegion_of_open hopen] at hplain
  obtain ⟨bound, rfl, hbound, hcount⟩ := exists_of_plainOpen hapart hplain
  rw [countCalls_join hbound, countCalls_join hbound, hcount _ (by decide), hcount _ (by decide),
    bareStages]
  induction semicolonPieces region.text with
  | nil => rfl
  | cons piece pieces ih =>
      rw [List.map_cons, List.map_cons, List.map_cons, List.sum_cons, List.sum_cons, List.sum_cons,
        countInPiece_compute, ih]
      omega

/-- A stage with an argument and a stage without, each with a workgroup size of its own. -/
def twoStages : Text :=
  ("@compute(64) @workgroup_size(8) fn a() \x7b \x7d\n"
    ++ "@compute @workgroup_size(8) fn b() \x7b \x7d").toList

/-- Threads in groups of 64. -/
def sixtyFourThreads : ComputeEntry where
  dimensionality := 1
  workgroupSize := ⟨64, 1, 1⟩
  threadCount := ⟨64, 1, 1⟩

/-- The two stages in plain shader code. -/
def twoStagesPlain : Text :=
  "@compute @workgroup_size(64, 1, 1) fn a() \x7b \x7d\n@compute fn b() \x7b \x7d".toList

theorem emit_twoStages :
    emit twoStages [] .compute (some (.compute sixtyFourThreads)) = .ok twoStagesPlain :=
  eq_ok_of_toOption (by decide +kernel)

theorem workgroup_size_per_filled_stage_twoStages :
    (∀ region ∈ regions twoStages,
      region.StandsApart .compute (some sixtyFourThreads.workgroupSize)) ∧
      ∃ texts, twoStagesPlain = tidyLines texts.flatten ∧
        List.Forall₂ (fun region text =>
          (∃ atLineStart, plainRegion .compute (some sixtyFourThreads.workgroupSize)
            (slotNamed? []) atLineStart region = .ok text) ∧
          (region.isSealed = false →
            region.StandsApart .compute (some sixtyFourThreads.workgroupSize) →
            countCalls "compute" text
              = countCalls "workgroup_size" text + bareStages region.text))
          (regions twoStages) texts :=
  ⟨by decide +kernel, workgroup_size_per_filled_stage emit_twoStages⟩

/-- A stage without an argument loses its workgroup size and gets none. -/
theorem bare_stage_without_size :
    ∃ region ∈ regions twoStages, region.isSealed = false ∧
      countCalls "workgroup_size" region.text = 1 ∧
      ∃ text, plainRegion .compute (some sixtyFourThreads.workgroupSize) (slotNamed? []) false
          region = .ok text ∧
        countCalls "compute" text = 1 ∧ countCalls "workgroup_size" text = 0 := by
  refine ⟨⟨"\n@compute @workgroup_size(8) ".toList, false⟩, by decide +kernel, rfl,
    by decide +kernel, "\n@compute ".toList, eq_ok_of_toOption (by decide +kernel),
    by decide +kernel, by decide +kernel⟩

end ShaderMarkup
