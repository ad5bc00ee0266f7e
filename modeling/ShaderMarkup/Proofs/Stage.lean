import Mathlib.Algebra.Ring.Nat
import Mathlib.Data.List.Chain
import ShaderMarkup.Proofs.Boundary
import ShaderMarkup.Proofs.Tidying

/-!
# Stages of fragment shaders

Emission cuts the argument off every stage `@fragment(…)`, and what stood behind it then follows the
name.  If that is a word, the two become one and the stage is gone.  Where the loose decorators of
the piece are detached this does not happen: every stage with an argument is still a stage in the
plain code (`fragment_stages_kept`).

The last piece of an open region is followed by a sealed one, so what is behind a piece is part of
the condition, and of the count: `countMarks name after text` counts the places of the text where a
decorator of the name starts, with `after` behind it.
-/

namespace ShaderMarkup

open Segment (join)

/-! ## Marks -/

/-- The number of places of a text where a decorator of the name starts.  `after` stands behind the
text. -/
def countMarks (name : String) (after : Text) : Text → Nat
  | [] => 0
  | c :: rest =>
      (if (decoratorMark name (c :: rest ++ after)).isSome then 1 else 0)
        + countMarks name after rest

theorem isSome_decoratorMark_iff {name : String} {text : Text} :
    (decoratorMark name text).isSome = true ↔
      ∃ rest, text = '@' :: (name.toList ++ rest) ∧ ∀ c ∈ rest.head?, isWord c = false := by
  rw [Option.isSome_iff_exists]
  constructor
  · rintro ⟨⟨u, rest⟩, h⟩
    unfold decoratorMark at h
    simp only [Reader.bind_eq_some_iff, Reader.symbol_eq_some_iff, Reader.word_eq_some_iff,
      Reader.notBefore_eq_some_iff] at h
    obtain ⟨_, _, rfl, _, _, rfl, rfl, hrest⟩ := h
    exact ⟨_, rfl, hrest⟩
  · rintro ⟨rest, rfl, hrest⟩
    refine ⟨((), rest), ?_⟩
    unfold decoratorMark
    simp only [Reader.bind_eq_some_iff, Reader.symbol_eq_some_iff, Reader.word_eq_some_iff,
      Reader.notBefore_eq_some_iff]
    exact ⟨(), _, rfl, (), _, rfl, rfl, hrest⟩

section Marks

variable {name : String} {after a b : Text}

theorem countMarks_append (name : String) (after a b : Text) :
    countMarks name after (a ++ b) = countMarks name (b ++ after) a + countMarks name after b := by
  induction a with
  | nil => simp [countMarks]
  | cons c a ih =>
      rw [List.cons_append, countMarks, countMarks, ih, List.cons_append, List.cons_append,
        List.append_assoc, Nat.add_assoc]

/-- Where every mark of one place is a mark of the other, counts compare. -/
theorem countMarks_cons_le {after' : Text} {c : Char}
    (hmark : (decoratorMark name (c :: a ++ after)).isSome = true →
      (decoratorMark name (c :: b ++ after')).isSome = true)
    (hrest : countMarks name after a ≤ countMarks name after' b) :
    countMarks name after (c :: a) ≤ countMarks name after' (c :: b) := by
  rw [countMarks, countMarks]
  split
  next h =>
    rw [if_pos (hmark h)]
    omega
  next => omega

theorem countMarks_blank {gap : Text} (hgap : ∀ c ∈ gap, isBlank c = true) :
    countMarks name after gap = 0 := by
  induction gap with
  | nil => rfl
  | cons c gap ih =>
      rw [List.forall_mem_cons] at hgap
      rw [countMarks, ih hgap.2, if_neg]
      rw [isSome_decoratorMark_iff]
      rintro ⟨rest, heq, -⟩
      rw [(List.cons.inj heq).1] at hgap
      cases hgap.1

variable (hname : ∀ c ∈ name.toList, isWord c = true)
include hname

/-- What stands behind a text makes no difference to its marks if no word goes on there. -/
theorem countMarks_le_of_not_word {after' : Text} (hafter : ∀ c ∈ after.head?, isWord c = false)
    (hafter' : ∀ c ∈ after'.head?, isWord c = false) :
    countMarks name after a ≤ countMarks name after' a := by
  induction a with
  | nil => exact Nat.le_refl _
  | cons c a ih =>
      refine countMarks_cons_le (fun hmark => ?_) ih
      rw [isSome_decoratorMark_iff] at hmark ⊢
      obtain ⟨rest, heq, hrest⟩ := hmark
      obtain ⟨rfl, hbehind⟩ := List.cons.inj heq
      rcases List.append_eq_append_iff.mp hbehind with ⟨tail, htail, rfl⟩ | ⟨inside, rfl, rfl⟩
      · -- A name that went on behind the text would put a word there.
        cases tail with
        | nil =>
            rw [List.append_nil] at htail
            exact ⟨after', by rw [htail]; rfl, hafter'⟩
        | cons d tail =>
            have hword := hname d (by rw [htail]; simp)
            rw [hafter d rfl] at hword
            cases hword
      · refine ⟨inside ++ after', by simp, fun d hd => ?_⟩
        cases inside with
        | nil => exact hafter' d hd
        | cons e inside => exact hrest d hd

/-- White space that is written anew separates as before. -/
theorem countMarks_le_of_respaced (h : Respaced a b) :
    countMarks name after a ≤ countMarks name after b := by
  have hsolid : ∀ c ∈ '@' :: name.toList, isBlank c = false := by
    rw [List.forall_mem_cons]
    exact ⟨by decide, fun c hc => isBlank_eq_false_of_isWord (hname c hc)⟩
  induction h with
  | nil => exact Nat.le_refl _
  | @keep c a b h ih =>
      refine countMarks_cons_le (fun hmark => ?_) ih
      rw [isSome_decoratorMark_iff] at hmark ⊢
      obtain ⟨rest, heq, hrest⟩ := hmark
      have hwhole : Respaced ('@' :: name.toList ++ rest) (c :: b ++ after) := by
        rw [List.cons_append, ← heq]
        exact (Respaced.keep c h).append (.refl after)
      obtain ⟨rest', heq', hspaced⟩ := hwhole.of_solid_append hsolid
      exact ⟨rest', heq', hspaced.head? (fun d hd => isWord_eq_false_of_isBlank hd) hrest⟩
  | anew hv hw _ _ _ _ ih =>
      rw [countMarks_append, countMarks_append, countMarks_blank hv, countMarks_blank hw]
      omega

/-- The plain form of white space in an open region keeps the marks. -/
theorem countMarks_le_unindent (atLineStart : Bool) (text : Text) :
    countMarks name after text ≤ countMarks name after (unindent atLineStart (squeeze text)) := by
  have hsqueeze : countMarks name after text ≤ countMarks name after (squeeze text) :=
    countMarks_le_of_respaced hname (respaced_squeeze text)
  rw [unindent_eq_dropIndent]
  obtain ⟨hfalse, lead, core, lead', core', hsplit, htrue, hlead, hlead', hcore⟩ :=
    respaced_dropIndent (squeeze text)
  cases atLineStart with
  | false => exact hsqueeze.trans (countMarks_le_of_respaced hname hfalse)
  | true =>
      rw [htrue, countMarks_append, countMarks_blank hlead']
      rw [hsplit, countMarks_append, countMarks_blank hlead] at hsqueeze
      have hrest : countMarks name after core ≤ countMarks name after core' :=
        countMarks_le_of_respaced hname hcore
      omega

/-- Dropping blank lines and trailing blanks keeps the marks. -/
theorem countMarks_le_tidyLines (text : Text) :
    countMarks name [] text ≤ countMarks name [] (tidyLines text) := by
  obtain ⟨lead, core, trail, hrows, hblank, hcore⟩ := reflowed_tidyRows (Text.lines text)
  rw [unlines_lines] at hrows
  rw [List.forall_mem_append] at hblank
  have htrail : ∀ c ∈ (trail ++ []).head?, isWord c = false := by
    intro c hc
    rw [List.append_nil] at hc
    exact isWord_eq_false_of_isBlank (hblank.2 c (List.mem_of_head? hc))
  calc countMarks name [] text
      = countMarks name (trail ++ []) core := by
        rw [hrows, countMarks_append, countMarks_append, countMarks_blank hblank.1,
          countMarks_blank hblank.2, Nat.zero_add, Nat.add_zero]
    _ ≤ countMarks name [] core := countMarks_le_of_not_word hname htrail (by simp)
    _ ≤ countMarks name [] (tidyLines text) := countMarks_le_of_respaced hname hcore

end Marks

/-! ## Pieces -/

/-- A spelled decorator starts a mark of its name. -/
theorem Decorator.Spelled.isSome_decoratorMark {decorator : Decorator} {written rest : Text}
    {name : String} (h : decorator.Spelled written) (hname : decorator.name = name.toList)
    (hrest : decorator.argument = none → ∀ c ∈ rest.head?, isWord c = false) :
    (decoratorMark name (written ++ rest)).isSome = true := by
  rw [isSome_decoratorMark_iff]
  cases h with
  | @bare given _ =>
      change given = name.toList at hname
      subst hname
      exact ⟨rest, rfl, hrest rfl⟩
  | @filled given gap argument close _ hgap _ _ =>
      change given = name.toList at hname
      subst hname
      exact ⟨gap ++ '(' :: (argument ++ [close] ++ rest), by simp, head?_gap_bracket hgap _⟩

/-- The decorators of the name among segments are marks of their text.  What stands behind it may
change, if no word comes to follow it. -/
theorem countNamed_le_countMarks {name : String} {loose : Text → Bool} {after behind : Text}
    {pieces : List (Segment Decorator)} (h : StandApart loose after pieces)
    (hbehind : (∀ c ∈ after.head?, isWord c = false) → ∀ c ∈ behind.head?, isWord c = false) :
    countNamed name.toList pieces ≤ countMarks name behind (join pieces) := by
  induction pieces with
  | nil => exact Nat.le_refl _
  | cons piece rest ih =>
      cases piece with
      | plain c =>
          rw [countNamed_plain, join_plain, countMarks]
          exact (ih h.2).trans (Nat.le_add_left _ _)
      | hit decorator written =>
          obtain ⟨hspelled, hdetached, hrest⟩ := h
          have htail := ih hrest
          rw [countNamed_hit, join_hit, countMarks_append]
          split
          next hname =>
            have hword : decorator.argument = none →
                ∀ c ∈ (join rest ++ behind).head?, isWord c = false := by
              intro hargument
              have hword := (hdetached (Or.inl hargument)).1
              cases hjoin : join rest with
              | nil =>
                  rw [hjoin] at hword
                  exact hbehind hword
              | cons c more =>
                  rw [hjoin] at hword
                  exact hword
            have hmark := hspelled.isSome_decoratorMark hname hword
            obtain ⟨tail, rfl⟩ := hspelled.exists_eq_cons
            rw [countMarks, if_pos hmark]
            omega
          next => omega

/-- Whether the decorator is a stage `@fragment(…)`. -/
def Decorator.isFilledFragment (decorator : Decorator) : Bool :=
  decorator.name = "fragment".toList && decorator.argument.isSome

/-- The number of stages `@fragment(…)` of a piece. -/
def filledStages (piece : Text) : Nat :=
  (calls piece).countP fun call => call.value.isFilledFragment

section Pieces

variable {kind : ShaderKind} {workgroup : Option Extent} {slotOf : Text → Option Slot}

theorem Decorator.plainDecorators_of_isFilledFragment {decorator : Decorator}
    (h : decorator.isFilledFragment = true) (workgroup : Option Extent) :
    plainDecorators workgroup decorator = [stageDecorator "fragment"] := by
  obtain ⟨hname, hargument⟩ := Bool.and_eq_true_iff.mp h
  have hfragment := of_decide_eq_true hname
  have hcompute : decorator.name ≠ "compute".toList := by
    rw [hfragment]
    decide
  rw [plainDecorators, if_neg (by simpa [Option.isSome_iff_ne_none] using hargument),
    if_neg hcompute, if_pos hfragment]

theorem Decorator.isMarkup_of_isFilledFragment {decorator : Decorator}
    (h : decorator.isFilledFragment = true) (kind : ShaderKind) :
    isMarkup kind decorator.name = false := by
  rw [of_decide_eq_true (Bool.and_eq_true_iff.mp h).1]
  cases kind <;> rfl

/-- A stage is no markup, and its plain form is a stage. -/
theorem filledStages_le_countP (kind : ShaderKind) (workgroup : Option Extent) (piece : Text) :
    filledStages piece ≤ (entryDecorators kind workgroup piece).countP
      fun decorator => decorator.name = "fragment".toList := by
  have hvalues : filledStages piece
      = ((calls piece).map (·.value)).countP Decorator.isFilledFragment := by
    rw [List.countP_map]
    rfl
  rw [hvalues, entryDecorators]
  induction (calls piece).map (·.value) with
  | nil => exact Nat.le_refl _
  | cons decorator rest ih =>
      rw [List.countP_cons]
      cases hstage : decorator.isFilledFragment with
      | true =>
          rw [if_pos rfl, List.filter_cons, Decorator.isMarkup_of_isFilledFragment hstage,
            if_pos Bool.not_false, List.flatMap_cons, List.countP_append,
            Decorator.plainDecorators_of_isFilledFragment hstage, Nat.add_comm]
          exact Nat.add_le_add (Nat.le_refl 1) ih
      | false =>
          rw [if_neg Bool.false_ne_true, Nat.add_zero, List.filter_cons]
          split
          next =>
            rw [List.flatMap_cons, List.countP_append]
            exact ih.trans (Nat.le_add_left _ _)
          next => exact ih

/-- The stages of a piece are marks of its plain form. -/
theorem filledStages_le_countMarks {piece text after behind : Text} (hclosed : IsClosed piece)
    (hloose : 0 < filledStages piece → LooseApart (isLoose kind workgroup) after piece)
    (h : plainPiece kind workgroup slotOf piece = .ok text)
    (hbehind : piece.getLast? = some ';' ∨
      ((∀ c ∈ after.head?, isWord c = false) → ∀ c ∈ behind.head?, isWord c = false)) :
    filledStages piece ≤ countMarks "fragment" behind text := by
  rcases Nat.eq_zero_or_pos (filledStages piece) with hzero | hpos
  · rw [hzero]
    exact Nat.zero_le _
  · obtain ⟨bound, rfl, hapart, hlast, hcount⟩ := exists_of_plainPiece hclosed (hloose hpos) h
    have hmarks : countNamed "fragment".toList bound
        ≤ countMarks "fragment" behind (join bound) := by
      rcases hbehind with hend | hbehind
      · exact countNamed_le_countMarks (hapart.of_semicolon (hlast hend) behind) id
      · exact countNamed_le_countMarks hapart hbehind
    rw [hcount _ (by decide)] at hmarks
    exact (filledStages_le_countP kind workgroup piece).trans hmarks

/-- Pieces in a row, each with what stands behind it. -/
def piecesBefore (after : Text) : List Text → List (Text × Text)
  | [] => []
  | piece :: rest => (piece, rest.flatten ++ after) :: piecesBefore after rest

/-- The stages of pieces in a row, of which all but the last end with a semicolon, are marks of
their plain forms. -/
theorem sum_filledStages_le_countMarks {pieces texts : List Text} {after behind : Text}
    (hends : ∀ piece ∈ pieces.dropLast, piece.getLast? = some ';')
    (hclosed : ∀ piece ∈ pieces, IsClosed piece)
    (hloose : ∀ place ∈ piecesBefore after pieces, 0 < filledStages place.1 →
      LooseApart (isLoose kind workgroup) place.2 place.1)
    (h : pieces.mapM (plainPiece kind workgroup slotOf) = .ok texts)
    (hbehind : (∀ c ∈ after.head?, isWord c = false) → ∀ c ∈ behind.head?, isWord c = false) :
    (pieces.map filledStages).sum ≤ countMarks "fragment" behind texts.flatten := by
  induction pieces generalizing texts with
  | nil => exact Nat.zero_le _
  | cons piece pieces ih =>
      obtain ⟨text, others, rfl, htext, hothers⟩ := exists_of_mapM_cons_eq_ok h
      rw [List.forall_mem_cons] at hclosed
      rw [piecesBefore, List.forall_mem_cons] at hloose
      obtain ⟨hfirst, hends⟩ := getLast?_of_dropLast_cons hends
      have hrest := ih hends hclosed.2 hloose.2 hothers
      have hpiece : filledStages piece
          ≤ countMarks "fragment" (others.flatten ++ behind) text := by
        refine filledStages_le_countMarks hclosed.1 hloose.1 htext ?_
        rcases hfirst with rfl | hsemicolon
        · cases hothers
          exact Or.inr hbehind
        · exact Or.inl hsemicolon
      rw [List.map_cons, List.sum_cons, List.flatten_cons, countMarks_append]
      exact Nat.add_le_add hpiece hrest

end Pieces

/-! ## Regions -/

/-- Open regions are maximal: none is followed by another. -/
theorem isChain_joinRegions (pieces : List (Segment Unit)) :
    (joinRegions pieces).IsChain fun region next =>
      region.isSealed = false → next.isSealed = true := by
  induction pieces with
  | nil => exact .nil
  | cons piece rest ih =>
      cases piece with
      | hit value written =>
          rw [joinRegions, List.isChain_cons]
          exact ⟨fun _ _ hopen => Bool.noConfusion hopen, ih⟩
      | plain c =>
          rw [joinRegions]
          split
          next text others hregions =>
            rw [hregions, List.isChain_cons] at ih
            exact List.isChain_cons.mpr ih
          next hregions =>
            refine List.isChain_cons.mpr ⟨fun next hnext _ => ?_, ih⟩
            obtain ⟨others, hothers⟩ := List.head?_eq_some_iff.mp hnext
            exact eq_true_of_ne_false fun hopen =>
              hregions next.text others (by rw [hothers, ← hopen])

theorem text_ne_nil_of_mem_joinRegions {before : Option Char} {text : Text}
    {pieces : List (Segment Unit)} (h : Segmented sealedText before text pieces) :
    ∀ region ∈ joinRegions pieces, region.text ≠ [] := by
  induction h with
  | nil => simp [joinRegions]
  | hit hne _ _ ih =>
      rw [joinRegions, List.forall_mem_cons]
      exact ⟨hne, ih⟩
  | plain _ _ ih =>
      rw [joinRegions]
      split
      next text others hregions =>
        rw [hregions, List.forall_mem_cons] at ih
        exact List.forall_mem_cons.mpr ⟨List.cons_ne_nil _ _, ih.2⟩
      next => exact List.forall_mem_cons.mpr ⟨List.cons_ne_nil _ _, ih⟩

/-- The pieces of the open regions, each with what stands behind it. -/
def openPiecesBefore : List Region → List (Text × Text)
  | [] => []
  | region :: rest =>
      (if region.isSealed then []
        else piecesBefore (rest.flatMap Region.text) (semicolonPieces region.text))
        ++ openPiecesBefore rest

section Regions

variable {kind : ShaderKind} {workgroup : Option Extent} {slotOf : Text → Option Slot}

/-- What follows an open region starts as it does in the source: it is sealed. -/
theorem head?_plainRegions {before : Option Text} {region : Region} {rest : List Region}
    {texts : List Text} (hopen : region.isSealed = false)
    (hchain : (region :: rest).IsChain fun region next =>
      region.isSealed = false → next.isSealed = true)
    (hne : ∀ next ∈ rest, next.text ≠ [])
    (h : plainRegions kind workgroup slotOf before rest = .ok texts) :
    texts.flatten.head? = (rest.flatMap Region.text).head? := by
  cases rest with
  | nil =>
      cases h
      rfl
  | cons next others =>
      have hsealed : next.isSealed = true := (List.isChain_cons.mp hchain).1 next rfl hopen
      obtain ⟨text, more, rfl, htext, -⟩ := exists_of_plainRegions_cons h
      rw [plainRegion, if_pos hsealed] at htext
      cases htext
      obtain ⟨c, tail, hnext⟩ := List.exists_cons_of_ne_nil (hne next List.mem_cons_self)
      simp [hnext]

/-- The stages of the open regions are marks of the plain code. -/
theorem sum_filledStages_le_plainRegions {before : Option Text} {stretches : List Region}
    {texts : List Text}
    (hchain : stretches.IsChain fun region next => region.isSealed = false → next.isSealed = true)
    (hne : ∀ region ∈ stretches, region.text ≠ [])
    (hclosed : ∀ region ∈ stretches, region.isSealed = false →
      ∀ piece ∈ semicolonPieces region.text, IsClosed piece)
    (hloose : ∀ place ∈ openPiecesBefore stretches, 0 < filledStages place.1 →
      LooseApart (isLoose kind workgroup) place.2 place.1)
    (h : plainRegions kind workgroup slotOf before stretches = .ok texts) :
    ((stretches.flatMap fun region =>
        if region.isSealed then [] else semicolonPieces region.text).map filledStages).sum
      ≤ countMarks "fragment" [] texts.flatten := by
  induction stretches generalizing before texts with
  | nil => exact Nat.zero_le _
  | cons region rest ih =>
      obtain ⟨text, others, rfl, htext, hothers⟩ := exists_of_plainRegions_cons h
      rw [List.forall_mem_cons] at hne hclosed
      rw [openPiecesBefore, List.forall_mem_append] at hloose
      have hrest := ih (List.isChain_cons.mp hchain).2 hne.2 hclosed.2 hloose.2 hothers
      rw [List.flatMap_cons, List.map_append, List.sum_append, List.flatten_cons, countMarks_append,
        List.append_nil]
      refine Nat.add_le_add ?_ hrest
      cases hsealed : region.isSealed with
      | true => exact Nat.zero_le _
      | false =>
          rw [hsealed] at hloose
          rw [plainRegion_of_open hsealed] at htext
          obtain ⟨forms, hforms, htext⟩ := bind_eq_ok_iff.mp htext
          cases htext
          have hhead := head?_plainRegions hsealed hchain hne.2 hothers
          calc ((semicolonPieces region.text).map filledStages).sum
              ≤ countMarks "fragment" others.flatten forms.flatten :=
                sum_filledStages_le_countMarks (semicolonPieces_dropLast region.text)
                  (hclosed.1 hsealed) hloose.1 hforms (by rw [hhead]; exact id)
            _ ≤ countMarks "fragment" others.flatten
                  (unindent (startsLine before) (squeeze forms.flatten)) :=
                countMarks_le_unindent (by decide) _ _

end Regions

/-! ## Emission -/

/-- Emission keeps the stages of fragment shaders: for every decorator `@fragment(…)` in the open
regions there is a decorator of that name in the plain code, if the brackets of all decorators close
and the loose decorators of pieces with such a stage are detached. -/
theorem fragment_stages_kept {code plain : Text} {resources : List Resource} {kind : ShaderKind}
    {entry : Option EntryPoint} (h : emit code resources kind entry = .ok plain)
    (hclosed : ∀ piece ∈ openPieces code, IsClosed piece)
    (hloose : ∀ place ∈ openPiecesBefore (regions code), 0 < filledStages place.1 →
      LooseApart (isLoose kind (entry.bind EntryPoint.workgroup?)) place.2 place.1) :
    ((openPieces code).map filledStages).sum ≤ countMarks "fragment" [] plain := by
  obtain ⟨texts, htexts, h⟩ := bind_eq_ok_iff.mp h
  cases h
  have hregions := sum_filledStages_le_plainRegions (isChain_joinRegions _)
    (text_ne_nil_of_mem_joinRegions (segmented_segments startsWord_sealedText.advances code))
    (fun region hregion hopen piece hpiece => hclosed piece
      (List.mem_flatMap.mpr ⟨region, hregion, by rwa [hopen]⟩)) hloose htexts
  exact hregions.trans (countMarks_le_tidyLines (by decide) _)

/-- Stages in front of a variable, of a function and of nothing, and one inside the function. -/
def scatteredStages : Text :=
  ("@fragment (t) @group(3) var s: sampler; @fragment(u)\n\n  fn main() \x7b @fragment(x) \x7d\n"
    ++ "@fragment(v(w))").toList

/-- The sampler `s` in binding 4 of group 2. -/
def boundSampler : Resource where
  name := "s".toList
  group := 2
  binding := some 4
  detail := .sampler {}

/-- The stages in plain shader code. -/
def scatteredStagesPlain : Text :=
  ("@fragment @group(2) @binding(4) var s: sampler; @fragment\n"
    ++ "fn main() \x7b @fragment(x) \x7d\n@fragment").toList

theorem fragment_stages_kept_scatteredStages :
    ((openPieces scatteredStages).map filledStages).sum = 3 ∧
      emit scatteredStages [boundSampler] .fragment none = .ok scatteredStagesPlain ∧
      3 ≤ countMarks "fragment" [] scatteredStagesPlain := by
  have hthree : ((openPieces scatteredStages).map filledStages).sum = 3 := by decide +kernel
  have hemit : emit scatteredStages [boundSampler] .fragment none = .ok scatteredStagesPlain :=
    eq_ok_of_toOption (by decide +kernel)
  refine ⟨hthree, hemit, ?_⟩
  rw [← hthree]
  exact fragment_stages_kept hemit (by decide +kernel) (by decide +kernel)

/-- A stage that touches the function behind it is lost. -/
theorem fused_stage_lost :
    ∃ plain, emit "@fragment(t)fn main() \x7b \x7d".toList [] .fragment none = .ok plain ∧
      (∀ piece ∈ openPieces "@fragment(t)fn main() \x7b \x7d".toList, IsClosed piece) ∧
      ((openPieces "@fragment(t)fn main() \x7b \x7d".toList).map filledStages).sum = 1 ∧
      countMarks "fragment" [] plain = 0 :=
  ⟨"@fragmentfn main() \x7b \x7d".toList, eq_ok_of_toOption (by decide +kernel),
    by decide +kernel, by decide +kernel, by decide +kernel⟩

end ShaderMarkup
