import ShaderMarkup.Proofs.Boundary
import ShaderMarkup.Proofs.Spacing

/-!
# Plain code keeps its words

Code without markup goes through emission like any other: it is cut into regions and pieces, put
together again, and its white space is tidied on the way.  What is kept is the sequence of its
words.

* A blank character cuts the words of a text in two (`words_append_blank_cons`).  So white space can
  be written anew anywhere (`Respaced.words_append`), and at the start of a line it can go.
* A piece is plain (`IsPlainPiece`) when it holds nothing that emission acts on, and then emission
  leaves it as it is (`IsPlainPiece.plainPiece_eq`).
* `words_plainRegions` follows emission over the regions.  What has been emitted so far matters only
  through its last character: where a line starts, indentation may go because a word cannot have
  been cut there.
-/

namespace ShaderMarkup

/-! ## Words -/

theorem words_blank_cons {c : Char} (hc : isBlank c = true) (text : Text) :
    Text.words (c :: text) = Text.words text := by
  rw [Text.words.eq_def]
  simp [hc]

theorem words_blank_append {gap : Text} (hgap : ∀ c ∈ gap, isBlank c = true) (text : Text) :
    Text.words (gap ++ text) = Text.words text := by
  induction gap with
  | nil => rfl
  | cons c gap ih =>
      rw [List.forall_mem_cons] at hgap
      rw [List.cons_append, words_blank_cons hgap.1, ih hgap.2]

/-- White space cuts the words of a text in two. -/
theorem words_append_blank_cons {c : Char} (hc : isBlank c = true) (left right : Text) :
    Text.words (left ++ c :: right) = Text.words left ++ Text.words right := by
  induction left with
  | nil => exact words_blank_cons hc right
  | cons d left ih =>
      rw [List.cons_append]
      cases hd : isBlank d with
      | true => rw [words_blank_cons hd, words_blank_cons hd, ih]
      | false =>
          cases left with
          | nil =>
              rw [List.nil_append, Text.words.eq_def, Text.words.eq_def [d]]
              simp only [hd, words_blank_cons hc]
              cases Text.words right <;> simp [hc, Text.words]
          | cons e left =>
              -- The next character starts a word of its own, or belongs to the first one.
              have hstart : isBlank e = false → Text.words (e :: left) ≠ [] := by
                intro he hnil
                obtain ⟨first, others, heq, _⟩ := words_cons he left
                rw [heq] at hnil
                cases hnil
              rw [List.cons_append] at ih ⊢
              rw [Text.words.eq_def, Text.words.eq_def (d :: e :: left)]
              simp only [hd, ih, Bool.false_eq_true, if_false]
              cases hwords : Text.words (e :: left) with
              | cons first others => by_cases he : isBlank e = true <;> simp [he]
              | nil =>
                  have he : isBlank e = true := by
                    by_contra hsolid
                    exact hstart (Bool.eq_false_iff.mpr hsolid) hwords
                  cases Text.words right <;> simp [he]

theorem words_append_blank {gap : Text} (hgap : ∀ c ∈ gap, isBlank c = true) (text : Text) :
    Text.words (text ++ gap) = Text.words text := by
  cases gap with
  | nil => rw [List.append_nil]
  | cons c gap =>
      rw [List.forall_mem_cons] at hgap
      have hnone : Text.words gap = [] := by
        have hblank := words_blank_append hgap.2 []
        rwa [List.append_nil] at hblank
      rw [words_append_blank_cons hgap.1, hnone, List.append_nil]

/-- White space written anew leaves the words as they are, whatever stands in front. -/
theorem Respaced.words_append {a b : Text} (h : Respaced a b) (left : Text) :
    Text.words (left ++ a) = Text.words (left ++ b) := by
  induction h generalizing left with
  | nil => rfl
  | keep c _ ih =>
      have hnext := ih (left ++ [c])
      rwa [List.append_assoc, List.append_assoc] at hnext
  | @anew v w a b hv hw hne hne' _ _ ih =>
      obtain ⟨c, v, rfl⟩ := List.exists_cons_of_ne_nil hne
      obtain ⟨d, w, rfl⟩ := List.exists_cons_of_ne_nil hne'
      rw [List.forall_mem_cons] at hv hw
      rw [List.cons_append, List.cons_append, words_append_blank_cons hv.1,
        words_append_blank_cons hw.1, words_blank_append hv.2, words_blank_append hw.2]
      exact congrArg _ (ih [])

theorem words_tidyLines (text : Text) : Text.words (tidyLines text) = Text.words text := by
  obtain ⟨lead, core, trail, hrows, hblank, hcore⟩ := reflowed_tidyRows (Text.lines text)
  rw [List.forall_mem_append] at hblank
  calc Text.words (tidyLines text)
      = Text.words core := (hcore.words_append []).symm
    _ = Text.words (lead ++ core ++ trail) := by
        rw [words_append_blank hblank.2, words_blank_append hblank.1]
    _ = Text.words text := by rw [← hrows, unlines_lines]

/-- No word reaches from the text into what follows it. -/
def EndsBlank (text : Text) : Prop :=
  ∀ c ∈ text.getLast?, isBlank c = true

theorem EndsBlank.words_append {done : Text} (h : EndsBlank done) {gap : Text}
    (hgap : ∀ c ∈ gap, isBlank c = true) (text : Text) :
    Text.words (done ++ (gap ++ text)) = Text.words (done ++ text) := by
  rcases List.eq_nil_or_concat done with rfl | ⟨front, c, rfl⟩
  · exact words_blank_append hgap text
  · have hc : isBlank c = true := h c (by simp)
    rw [List.concat_eq_append, List.append_assoc, List.append_assoc, List.singleton_append,
      List.singleton_append, words_append_blank_cons hc, words_append_blank_cons hc,
      words_blank_append hgap]

/-- Indentation goes only where a line starts. -/
theorem words_unindent {done : Text} {atLineStart : Bool}
    (hdone : atLineStart = true → EndsBlank done) (text rest : Text) :
    Text.words (done ++ (unindent atLineStart text ++ rest))
      = Text.words (done ++ (text ++ rest)) := by
  rw [unindent_eq_dropIndent]
  obtain ⟨hfalse, lead, core, lead', core', htext, htrue, hlead, hlead', hcore⟩ :=
    respaced_dropIndent text
  cases atLineStart with
  | false => exact ((hfalse.append (.refl rest)).words_append done).symm
  | true =>
      rw [htrue, htext, List.append_assoc, List.append_assoc, (hdone rfl).words_append hlead,
        (hdone rfl).words_append hlead']
      exact ((hcore.append (.refl rest)).words_append done).symm

/-! ## Pieces -/

/-- A piece of code that emission has nothing to do in: its decorators are closed, none belongs to
the markup, those of entry points have no argument, and its first variable is no resource. -/
structure IsPlainPiece (kind : ShaderKind) (resources : List Resource) (piece : Text) : Prop where
  balanced : ∀ call ∈ calls piece, call.value.balanced = true
  markup : ∀ call ∈ calls piece, call.value.name ∉ markupDecorators
  entry : ∀ call ∈ calls piece,
    call.value.name = "compute".toList ∨ call.value.name = "fragment".toList →
      call.value.argument = none
  workgroup : kind = .compute → ∀ call ∈ calls piece, call.value.name ≠ "workgroup_size".toList
  unbound : ∀ found ∈ findVariable? namedVariable piece, ∀ resource ∈ resources,
    resource.name ≠ found.value

instance (kind : ShaderKind) (resources : List Resource) (piece : Text) :
    Decidable (IsPlainPiece kind resources piece) :=
  decidable_of_iff
    ((∀ call ∈ calls piece, call.value.balanced = true) ∧
      (∀ call ∈ calls piece, call.value.name ∉ markupDecorators) ∧
      (∀ call ∈ calls piece,
        call.value.name = "compute".toList ∨ call.value.name = "fragment".toList →
          call.value.argument = none) ∧
      (kind = .compute → ∀ call ∈ calls piece, call.value.name ≠ "workgroup_size".toList) ∧
      (∀ found ∈ findVariable? namedVariable piece, ∀ resource ∈ resources,
        resource.name ≠ found.value))
    ⟨fun ⟨balanced, markup, entry, workgroup, unbound⟩ =>
        ⟨balanced, markup, entry, workgroup, unbound⟩,
      fun h => ⟨h.balanced, h.markup, h.entry, h.workgroup, h.unbound⟩⟩

theorem exists_call_of_hit {text written : Text} {decorator : Decorator}
    (h : .hit decorator written ∈ decoratorSegments text) :
    ∃ call ∈ calls text, call.value = decorator := by
  have hmem : decorator ∈ (calls text).map (·.value) := by
    have hvalues : (calls text).map (·.value) = (decoratorSegments text).filterMap Segment.value? :=
      map_value_hitsFrom 0 _
    rw [hvalues, List.mem_filterMap]
    exact ⟨_, h, rfl⟩
  exact List.mem_map.mp hmem

theorem removeDecorators_of_none {chosen : Text → Bool} {text : Text}
    (h : ∀ call ∈ calls text, chosen call.value.name = false) :
    removeDecorators chosen text = text := by
  have hnone : ((calls text).any fun call => chosen call.value.name) = false := by
    simpa using h
  unfold removeDecorators
  cases text.length with
  | zero => rfl
  | succ rounds => rw [removeWithin, hnone, if_neg (by decide)]

theorem plainEntries_of_bare {workgroup : Option Extent} {text : Text}
    (h : ∀ call ∈ calls text,
      call.value.name = "compute".toList ∨ call.value.name = "fragment".toList →
        call.value.argument = none) :
    plainEntries workgroup text = text := by
  calc plainEntries workgroup text
      = (decoratorSegments text).flatMap Segment.text := by
        refine List.flatMap_congr ?_
        intro segment hsegment
        cases segment with
        | plain c => rfl
        | hit decorator written =>
            obtain ⟨call, hcall, rfl⟩ := exists_call_of_hit hsegment
            show plainDecorator workgroup call.value written = written
            unfold plainDecorator
            split
            next => rfl
            next hargument =>
              have hname := mt (h call hcall) (by simpa using hargument)
              rw [not_or] at hname
              rw [if_neg hname.1, if_neg hname.2]
    _ = text := (segmented_segments Decorator.advances_read text).flatMap_text

/-- Emission leaves a plain piece as it is. -/
theorem IsPlainPiece.plainPiece_eq {kind : ShaderKind} {resources : List Resource} {piece : Text}
    (h : IsPlainPiece kind resources piece) (workgroup : Option Extent) :
    plainPiece kind workgroup (slotNamed? resources) piece = .ok piece := by
  have hbalanced : ((calls piece).any fun call => !call.value.balanced) = false := by
    simpa using h.balanced
  have hmarkup : ∀ call ∈ calls piece, isMarkup kind call.value.name = false := by
    intro call hcall
    rw [isMarkup, Bool.or_eq_false_iff]
    constructor
    · rw [Text.among, List.contains_eq_mem]
      exact decide_eq_false (h.markup call hcall)
    · by_cases hkind : kind = .compute
      · rw [decide_eq_false (h.workgroup hkind call hcall), Bool.and_false]
      · rw [decide_eq_false hkind, Bool.false_and]
  unfold plainPiece
  rw [hbalanced, if_neg (by decide), removeDecorators_of_none hmarkup,
    plainEntries_of_bare h.entry, bindVariable]
  cases hfound : findVariable? namedVariable piece with
  | none => rfl
  | some found =>
      have hslot : (slotNamed? resources found.value).isNone = true := by
        simpa [slotNamed?] using h.unbound found hfound
      simp only [hslot, if_true]

/-! ## Regions -/

theorem flatMap_text_regions (code : Text) : (regions code).flatMap Region.text = code := by
  rw [regions, flatMap_text_joinRegions]
  exact (segmented_segments startsWord_sealedText.advances code).flatMap_text

section Regions

variable {kind : ShaderKind} {workgroup : Option Extent} {slotOf : Text → Option Slot}

/-- One region: whatever has been emitted in front and whatever follows, the words stay. -/
theorem words_plainRegion {region : Region} {done : Text} {atLineStart : Bool}
    (hpieces : region.isSealed = false → ∀ piece ∈ semicolonPieces region.text,
      plainPiece kind workgroup slotOf piece = .ok piece)
    (hdone : atLineStart = true → EndsBlank done) :
    ∃ text, plainRegion kind workgroup slotOf atLineStart region = .ok text ∧
      ∀ rest, Text.words (done ++ (text ++ rest))
        = Text.words (done ++ (region.text ++ rest)) := by
  cases hsealed : region.isSealed with
  | true => exact ⟨region.text, by simp [plainRegion, hsealed], fun rest => rfl⟩
  | false =>
      have hall : (semicolonPieces region.text).mapM (plainPiece kind workgroup slotOf)
          = .ok (semicolonPieces region.text) :=
        mapM_eq_ok_iff.mpr (List.forall₂_same.mpr (hpieces hsealed))
      refine ⟨unindent atLineStart (squeeze region.text), ?_, fun rest => ?_⟩
      · rw [plainRegion_of_open hsealed, plainOpen, hall, bind_ok, flatten_semicolonPieces]
        rfl
      · rw [words_unindent hdone]
        exact (((respaced_squeeze region.text).append (.refl rest)).words_append done).symm

/-- All regions from one on, behind what has been emitted before. -/
theorem words_plainRegions {stretches : List Region} {before : Option Text} {done : Text}
    (hpieces : ∀ region ∈ stretches, region.isSealed = false →
      ∀ piece ∈ semicolonPieces region.text, plainPiece kind workgroup slotOf piece = .ok piece)
    (hdone : startsLine before = true → EndsBlank done) :
    ∃ texts, plainRegions kind workgroup slotOf before stretches = .ok texts ∧
      Text.words (done ++ texts.flatten)
        = Text.words (done ++ stretches.flatMap Region.text) := by
  induction stretches generalizing before done with
  | nil => exact ⟨[], rfl, rfl⟩
  | cons region stretches ih =>
      rw [List.forall_mem_cons] at hpieces
      obtain ⟨text, htext, hwords⟩ := words_plainRegion hpieces.1 hdone
      have hnext : startsLine (some text) = true → EndsBlank (done ++ text) := by
        intro hline c hc
        have hlast : text.getLast? = some '\n' := by simpa [startsLine] using hline
        rw [List.getLast?_append, hlast] at hc
        cases hc
        decide
      obtain ⟨texts, htexts, hrest⟩ := ih hpieces.2 hnext
      refine ⟨text :: texts, ?_, ?_⟩
      · rw [plainRegions_cons, htext, bind_ok, htexts]
        rfl
      · rw [List.flatten_cons, List.flatMap_cons, ← List.append_assoc, hrest, List.append_assoc,
          hwords]

end Regions

/-- Code whose open pieces are all plain is emitted with its words as they are, one by one and in
their order. -/
theorem words_emit_of_isPlainPiece (code : Text) (resources : List Resource) (kind : ShaderKind)
    (entry : Option EntryPoint)
    (hplain : ∀ piece ∈ openPieces code, IsPlainPiece kind resources piece) :
    ∃ plain, emit code resources kind entry = .ok plain ∧
      Text.words plain = Text.words code := by
  have hpieces : ∀ region ∈ regions code, region.isSealed = false →
      ∀ piece ∈ semicolonPieces region.text,
        plainPiece kind (entry.bind EntryPoint.workgroup?) (slotNamed? resources) piece
          = .ok piece := by
    intro region hregion hopen piece hpiece
    apply (hplain piece _).plainPiece_eq
    exact mem_openPieces.mpr ⟨region, hregion, hopen, hpiece⟩
  have hstart : startsLine none = true → EndsBlank [] := by simp [EndsBlank]
  obtain ⟨texts, htexts, hwords⟩ := words_plainRegions hpieces hstart
  refine ⟨tidyLines texts.flatten, ?_, ?_⟩
  · unfold emit
    dsimp only
    rw [htexts]
    rfl
  · rw [words_tidyLines]
    exact hwords.trans (congrArg _ (flatMap_text_regions code))

/-- Plain code in a loose layout, with a slot, a stage and a function. -/
def looseCode : Text :=
  ("\n\t @group(0)   @binding(1)\n  var tex : texture_2d<f32>;;  const n=4 ; @fragment \n".toList
    ++ " fn main ( ) \x7b \n\n  return ; \x7dx\t".toList)

/-- A resource that plain code has no variable of. -/
def strangeSampler : Resource where
  name := "tex2".toList
  binding := some 0
  declarationIndex := 0
  detail := .sampler {}

theorem words_emit_of_isPlainPiece_looseCode :
    (∀ piece ∈ openPieces looseCode, IsPlainPiece .compute [strangeSampler] piece) ∧
      ∃ plain, emit looseCode [strangeSampler] .compute none = .ok plain ∧
        Text.words plain = Text.words looseCode :=
  have hplain : ∀ piece ∈ openPieces looseCode, IsPlainPiece .compute [strangeSampler] piece := by
    decide +kernel
  ⟨hplain, words_emit_of_isPlainPiece looseCode [strangeSampler] .compute none hplain⟩

/-- A constant, and a stage with an argument.  No semicolon stands behind the stage. -/
def unendedStage : Text :=
  "const n = 4;\n@compute(4) fn main() \x7b \x7d".toList

/-- It is not enough that the pieces with a semicolon at their end are plain.  What an open region
has behind its last semicolon is given its plain form, too. -/
theorem words_emit_unendedStage_ne :
    (∀ piece ∈ openPieces unendedStage, piece.getLast? = some ';' →
      IsPlainPiece .compute [] piece) ∧
    ∃ plain, emit unendedStage [] .compute none = .ok plain ∧
      Text.words plain ≠ Text.words unendedStage := by
  refine ⟨by decide +kernel, ?_⟩
  have hwords : (emit unendedStage [] .compute none).toOption.map Text.words ≠
      some (Text.words unendedStage) := by decide +kernel
  have hsome : (emit unendedStage [] .compute none).toOption.isSome = true := by decide +kernel
  cases hemit : emit unendedStage [] .compute none with
  | error fault =>
      rw [hemit] at hsome
      cases hsome
  | ok plain =>
      rw [hemit] at hwords
      exact ⟨plain, rfl, fun h => hwords (congrArg some h)⟩

end ShaderMarkup
