import ShaderMarkup.Proofs.Containment
import ShaderMarkup.Proofs.PlainForm

/-!
# When emission completes

Emission looks for the variable of a resource twice in a piece: in front of its slot, and again when
the slot decorators are gone.  The variable may stand in one of them, and then emission fails.  It
completes exactly when this happens in no piece (`KeepsResource`, `isOk_plainPiece_iff`).

A condition on the source is enough: no slot decorator has the word `var` in it or in front of it,
and the loose decorators are detached (`SlotsLead`).  Nothing that emission does to the text up to
the last slot decorator makes a word out of parts of others (`not_infix_rewrite`), so both searches
find the first variable behind it (`SlotsLead.not_hidesVariable`).
-/

namespace ShaderMarkup

open Segment (join)

/-! ## Words -/

/-- Where no word goes on from one text to the next, a word stands in one of them. -/
theorem infix_or_infix_of_word {word a b : Text} (hword : ∀ c ∈ word, isWord c = true)
    (hends : (∀ c ∈ a.getLast?, isWord c = false) ∨ ∀ c ∈ b.head?, isWord c = false)
    (h : word <:+: a ++ b) : word <:+: a ∨ word <:+: b := by
  obtain ⟨before, behind, heq⟩ := h
  rcases List.append_eq_append_iff.mp heq with ⟨rest, rfl, -⟩ | ⟨beyond, hbeyond, rfl⟩
  · exact Or.inl ⟨before, rest, rfl⟩
  · rcases List.append_eq_append_iff.mp hbeyond with ⟨front, rfl, rfl⟩ | ⟨front, rfl, rfl⟩
    · -- The word is `front ++ beyond`: one of the two is empty.
      rcases List.eq_nil_or_concat front with rfl | ⟨init, last, rfl⟩
      · exact Or.inr ⟨[], behind, rfl⟩
      · cases beyond with
        | nil => exact Or.inl ⟨before, [], by simp⟩
        | cons first beyond =>
            have hlast := hword last (by simp)
            have hfirst := hword first (by simp)
            rcases hends with hends | hends
            · rw [hends last (by simp)] at hlast
              cases hlast
            · rw [hends first rfl] at hfirst
              cases hfirst
    · exact Or.inr ⟨front, behind, rfl⟩

section Rewriting

variable {loose : Text → Bool} {after : Text} {pieces : List (Segment Decorator)}
  {form : Decorator → Text → List (Segment Decorator)}

/-- A word in front of rewritten segments was there before. -/
theorem isPrefix_of_rewrite (hform : FitsIn loose form) (h : StandApart loose after pieces)
    {word : Text} (hword : ∀ c ∈ word, isWord c = true)
    (hfront : word <+: join (rewriteSegments form pieces)) : word <+: join pieces := by
  induction pieces generalizing word with
  | nil => exact hfront
  | cons piece rest ih =>
      cases word with
      | nil => exact List.nil_prefix
      | cons c word =>
          rw [List.forall_mem_cons] at hword
          cases piece with
          | plain d =>
              rw [rewriteSegments_plain, join_plain, List.cons_prefix_cons] at hfront
              rw [join_plain, List.cons_prefix_cons]
              exact ⟨hfront.1, ih h.2 hword.2 hfront.2⟩
          | hit decorator written =>
              obtain ⟨hspelled, hdetached, hrest⟩ := h
              rw [rewriteSegments_hit, join_append] at hfront
              rcases hform.starts hspelled with ⟨hnil, hloose⟩ | ⟨tail, htail⟩
              · -- The decorator is gone, and no word starts behind it.
                have hapart := (hrest.rewrite hform).2.isDetached (hdetached (Or.inr hloose))
                rw [hnil, join_nil, List.nil_append] at hfront
                obtain ⟨behind, hbehind⟩ := hfront
                have hfirst := hapart.1 c (by rw [← hbehind]; rfl)
                rw [hword.1] at hfirst
                cases hfirst
              · rw [htail, List.cons_append, List.cons_prefix_cons] at hfront
                rw [hfront.1] at hword
                cases hword.1

/-- The segments in place of a decorator bring in no `var`, and none arises behind them. -/
structure BringsNoVar (loose : Text → Bool)
    (form : Decorator → Text → List (Segment Decorator)) : Prop extends FitsIn loose form where
  ends : ∀ {decorator written}, decorator.Spelled written →
    (decorator.argument = none ∨ loose decorator.name = true) ∨
      ∀ c ∈ (join (form decorator written)).getLast?, isWord c = false
  free : ∀ {decorator written}, decorator.Spelled written → ¬ "var".toList <:+: written →
    ¬ "var".toList <:+: join (form decorator written)

/-- Rewriting segments without the word `var` brings none in. -/
theorem not_infix_rewrite (hform : BringsNoVar loose form) (h : StandApart loose after pieces)
    (hnone : ¬ "var".toList <:+: join pieces) :
    ¬ "var".toList <:+: join (rewriteSegments form pieces) := by
  have hword : ∀ c ∈ "var".toList, isWord c = true := by decide
  induction pieces with
  | nil => exact hnone
  | cons piece rest ih =>
      cases piece with
      | plain c =>
          rw [rewriteSegments_plain, join_plain, List.infix_cons_iff, not_or]
          rw [join_plain, List.infix_cons_iff, not_or] at hnone
          refine ⟨fun hfront => hnone.1 ?_, ih h.2 hnone.2⟩
          obtain ⟨hc, hfront⟩ : 'v' = c ∧ "ar".toList <+: join (rewriteSegments form rest) :=
            List.cons_prefix_cons.mp hfront
          exact List.cons_prefix_cons.mpr
            ⟨hc, isPrefix_of_rewrite hform.toFitsIn h.2 (by decide) hfront⟩
      | hit decorator written =>
          obtain ⟨hspelled, hdetached, hrest⟩ := h
          rw [join_hit] at hnone
          have hends : (∀ c ∈ (join (form decorator written)).getLast?, isWord c = false) ∨
              ∀ c ∈ (join (rewriteSegments form rest)).head?, isWord c = false := by
            refine (hform.ends hspelled).symm.imp_right fun hneeds => ?_
            exact ((hrest.rewrite hform.toFitsIn).2.isDetached (hdetached hneeds)).left.1
          rw [rewriteSegments_hit, join_append]
          intro hmem
          rcases infix_or_infix_of_word hword hends hmem with hmem | hmem
          · exact hform.free hspelled
              (fun hwritten => hnone (hwritten.trans List.infix_append_left)) hmem
          · exact ih hrest (fun hbehind => hnone (hbehind.trans List.infix_append_right)) hmem

/-- A decorator with an argument ends with a bracket. -/
theorem Decorator.Spelled.ends {decorator : Decorator} {written : Text}
    (h : decorator.Spelled written) :
    decorator.argument = none ∨ ∀ c ∈ written.getLast?, isWord c = false := by
  cases h with
  | bare => exact Or.inl rfl
  | @filled name gap argument close hname hgap hargument hclose =>
      refine Or.inr fun c hc => ?_
      have hwhole : '@' :: (name ++ (gap ++ '(' :: (argument ++ [close])))
          = ('@' :: (name ++ (gap ++ '(' :: argument))) ++ [close] := by simp
      rw [hwhole, List.getLast?_concat] at hc
      cases hc
      exact isWord_eq_false_of_isClosing hclose

theorem bringsNoVar_withoutChosen {chosen : Text → Bool}
    (hchosen : ∀ name, chosen name = true → loose name = true) :
    BringsNoVar loose (withoutChosen chosen) where
  toFitsIn := fitsIn_withoutChosen hchosen
  ends {decorator written} hspelled := by
    unfold withoutChosen
    split
    · simp
    · rw [join_hit, join_nil, List.append_nil]
      exact hspelled.ends.imp_left Or.inl
  free {decorator written} hspelled hnone := by
    unfold withoutChosen
    split
    · rw [join_nil, List.infix_nil]
      decide
    · rwa [join_hit, join_nil, List.append_nil]

theorem not_infix_of_not_mem {text : Text} (h : 'v' ∉ text) : ¬ "var".toList <:+: text :=
  fun hmem => h (hmem.subset (by decide))

theorem not_mem_workgroupDecorator (size : Extent) : 'v' ∉ (workgroupDecorator size).text := by
  have hargument : 'v' ∉ Text.listing [Text.ofInt size.x, Text.ofInt size.y, Text.ofInt size.z] :=
    fun hmem => (workgroupArgument_free size 'v' hmem).2.2 rfl
  have hname : 'v' ∉ "workgroup_size".toList := by decide
  simp only [workgroupDecorator, Decorator.filled, Decorator.text, Option.elim_some, List.mem_cons,
    List.mem_append, List.mem_nil_iff, or_false, not_or]
  exact ⟨by decide, hname, by decide, hargument, by decide⟩

theorem bringsNoVar_plainSegments (workgroup : Option Extent) :
    BringsNoVar (isLooseEntry workgroup) (plainSegments workgroup) where
  toFitsIn := fitsIn_plainSegments_isLooseEntry workgroup
  ends {decorator written} hspelled := by
    have hkeep : (decorator.argument = none ∨ isLooseEntry workgroup decorator.name = true) ∨
        ∀ c ∈ (join [Segment.hit decorator written]).getLast?, isWord c = false := by
      rw [join_hit, join_nil, List.append_nil]
      exact hspelled.ends.imp_left Or.inl
    unfold plainSegments
    split
    · exact hkeep
    · split
      next hname =>
        cases workgroup with
        | none =>
            rw [hname]
            exact Or.inl (Or.inr rfl)
        | some size =>
            refine Or.inr fun c hc => ?_
            rcases (spelled_workgroupDecorator size).ends with hnone | hends
            · cases hnone
            · refine hends c ?_
              have hne : (workgroupDecorator size).text ≠ [] := by simp [Decorator.text]
              rw [Option.elim_some, join_hit, join_plain, join_hit, join_nil, List.append_nil,
                List.getLast?_append_of_ne_nil _ (by simp), List.getLast?_cons,
                List.getLast?_eq_some_getLast hne] at hc
              rw [List.getLast?_eq_some_getLast hne]
              exact hc
      next =>
        split
        next hname =>
          rw [hname]
          exact Or.inl (Or.inr (by cases workgroup <;> rfl))
        next => exact hkeep
  free {decorator written} hspelled hnone := by
    have hkeep : ¬ "var".toList <:+: join [Segment.hit decorator written] := by
      rwa [join_hit, join_nil, List.append_nil]
    unfold plainSegments
    split
    · exact hkeep
    · split
      next =>
        cases workgroup with
        | none => exact not_infix_of_not_mem (by decide)
        | some size =>
            refine not_infix_of_not_mem ?_
            rw [Option.elim_some, join_hit, join_plain, join_hit, join_nil, List.append_nil,
              List.mem_append, List.mem_cons, not_or, not_or]
            exact ⟨by decide, by decide, not_mem_workgroupDecorator size⟩
      next =>
        split
        next => exact not_infix_of_not_mem (by decide)
        next => exact hkeep

end Rewriting

/-! ## Searching behind a text without the word -/

theorem map_value_searchFrom {α : Type} (recognizer : Recognizer α) (before : Option Char)
    (offset : Nat) (text : Text) :
    (searchFrom recognizer before offset text).map (·.value)
      = (searchFrom recognizer before 0 text).map (·.value) := by
  have hshift := searchFrom_add text recognizer before offset 0
  rw [Nat.add_zero] at hshift
  rw [hshift, Option.map_map]
  rfl

/-- No variable starts where no word does, so it does not matter what stands in front. -/
theorem map_value_searchFrom_of_not_word {text : Text}
    (htext : ∀ c ∈ text.head?, isWord c = false) (before : Option Char) (offset : Nat) :
    (searchFrom (atWordStart namedVariable) before offset text).map (·.value)
      = (findVariable? namedVariable text).map (·.value) := by
  have hnone : namedVariable text = none := by
    refine namedVariable_eq_none ?_
    rintro ⟨more, rfl⟩
    exact absurd (htext 'v' rfl) (by decide)
  have hrefuses (place : Option Char) : atWordStart namedVariable place text = none := by
    rw [atWordStart, hnone]
    split <;> rfl
  rw [findVariable?, search]
  cases text with
  | nil => rw [searchFrom, searchFrom, hrefuses, hrefuses]
  | cons c rest =>
      rw [searchFrom, searchFrom, hrefuses, hrefuses]
      dsimp only
      rw [map_value_searchFrom _ _ (offset + 1), map_value_searchFrom _ _ (0 + 1)]

/-- The first variable behind a text without the word `var` is the first variable. -/
theorem map_value_findVariable?_append {front back : Text} (hfront : ¬ "var".toList <:+: front)
    (hback : ∀ c ∈ back.head?, isWord c = false) :
    (findVariable? namedVariable (front ++ back)).map (·.value)
      = (findVariable? namedVariable back).map (·.value) := by
  suffices h : ∀ before offset,
      (searchFrom (atWordStart namedVariable) before offset (front ++ back)).map (·.value)
        = (findVariable? namedVariable back).map (·.value) from h none 0
  induction front with
  | nil => exact fun before offset => map_value_searchFrom_of_not_word hback before offset
  | cons c front ih =>
      intro before offset
      rw [List.infix_cons_iff, not_or] at hfront
      have hnone : namedVariable (c :: (front ++ back)) = none := by
        refine namedVariable_eq_none ?_
        rintro ⟨more, hmore⟩
        rw [← List.cons_append] at hmore
        exact hfront.1 (isPrefix_of_word hmore.symm (by decide) hback)
      have hrefuses : atWordStart namedVariable before (c :: (front ++ back)) = none := by
        rw [atWordStart, hnone]
        split <;> rfl
      rw [List.cons_append, searchFrom, hrefuses]
      exact ih hfront.2 (some c) (offset + 1)

/-! ## Slots in front of variables -/

/-- The loose decorators of a piece are detached, and up to the end of its last slot decorator there
is no word `var`. -/
def SlotsLead (kind : ShaderKind) (workgroup : Option Extent) (piece : Text) : Prop :=
  LooseApart (isLoose kind workgroup) [] piece ∧
    ∀ call ∈ calls piece, isSlotDecorator call.value.name = true →
      ¬ "var".toList <:+: piece.take call.stop

instance (kind : ShaderKind) (workgroup : Option Extent) (piece : Text) :
    Decidable (SlotsLead kind workgroup piece) :=
  inferInstanceAs (Decidable (_ ∧ _))

/-- A list of segments, cut behind the last decorator with a property. -/
theorem exists_last_hit (p : Decorator → Bool) (pieces : List (Segment Decorator)) :
    ∃ front back, pieces = front ++ back ∧
      (∀ decorator ∈ back.filterMap Segment.value?, p decorator = false) ∧
      (front = [] ∨ ∃ init decorator written,
        front = init ++ [.hit decorator written] ∧ p decorator = true) := by
  induction pieces with
  | nil => exact ⟨[], [], rfl, by simp, Or.inl rfl⟩
  | cons piece rest ih =>
      obtain ⟨front, back, rfl, hback, hfront⟩ := ih
      rcases hfront with rfl | ⟨init, decorator, written, rfl, hp⟩
      · cases piece with
        | plain c => exact ⟨[], .plain c :: back, rfl, hback, Or.inl rfl⟩
        | hit decorator written =>
            cases hp : p decorator with
            | false =>
                refine ⟨[], .hit decorator written :: back, rfl, ?_, Or.inl rfl⟩
                exact List.forall_mem_cons.mpr ⟨hp, hback⟩
            | true =>
                exact ⟨[.hit decorator written], back, rfl, hback,
                  Or.inr ⟨[], decorator, written, rfl, hp⟩⟩
      · exact ⟨piece :: (init ++ [.hit decorator written]), back, rfl, hback,
          Or.inr ⟨piece :: init, decorator, written, rfl, hp⟩⟩

/-- A decorator among segments is found where it stands. -/
theorem mem_hitsFrom_append (offset : Nat) (init back : List (Segment Decorator))
    (decorator : Decorator) (written : Text) :
    ⟨decorator, offset + (join init).length, offset + (join init).length + written.length⟩
      ∈ hitsFrom offset (init ++ .hit decorator written :: back) := by
  induction init generalizing offset with
  | nil => exact List.mem_cons_self
  | cons piece init ih =>
      cases piece with
      | plain c =>
          have hmem := ih (offset + 1)
          rw [Nat.add_right_comm] at hmem
          exact hmem
      | hit other text =>
          have hmem := ih (offset + text.length)
          rw [Nat.add_assoc offset, ← List.length_append] at hmem
          exact List.mem_cons_of_mem _ hmem

/-- A piece is cut behind the last decorator with a chosen name.  If no word `var` stands up to the
end of such a decorator, there is none in front of the cut; and if their names are loose, no word
starts behind it. -/
theorem exists_lead {loose chosen : Text → Bool} {piece : Text}
    (hsegments : StandApart loose [] (decoratorSegments piece))
    (hloose : ∀ name, chosen name = true → loose name = true)
    (h : ∀ call ∈ calls piece, chosen call.value.name = true →
      ¬ "var".toList <:+: piece.take call.stop) :
    ∃ front back, decoratorSegments piece = front ++ back ∧
      (∀ decorator ∈ back.filterMap Segment.value?, chosen decorator.name = false) ∧
      (front = [] ∨ ¬ "var".toList <:+: join front ∧ IsDetached (join back ++ [])) := by
  obtain ⟨front, back, hsplit, hback, hfront⟩ :=
    exists_last_hit (fun decorator => chosen decorator.name) (decoratorSegments piece)
  refine ⟨front, back, hsplit, hback, hfront.imp_right ?_⟩
  rintro ⟨init, decorator, written, rfl, hchosen⟩
  have hcall : ⟨decorator, 0 + (join init).length, 0 + (join init).length + written.length⟩
      ∈ calls piece := by
    show _ ∈ hitsFrom 0 (decoratorSegments piece)
    rw [hsplit, List.append_assoc]
    exact mem_hitsFrom_append 0 init back decorator written
  have htake : piece.take (0 + (join init).length + written.length)
      = join (init ++ [.hit decorator written]) := by
    rw [← join_decoratorSegments piece, hsplit, join_append _ back, List.take_left']
    simp
  constructor
  · rw [← htake]
    exact h _ hcall hchosen
  · rw [hsplit, List.append_assoc] at hsegments
    exact hsegments.right.2.1 (Or.inr (hloose _ hchosen))

section Pieces

variable {kind : ShaderKind} {workgroup : Option Extent}

theorem entrySegments_append (front back : List (Segment Decorator)) :
    entrySegments kind workgroup (front ++ back)
      = entrySegments kind workgroup front ++ entrySegments kind workgroup back := by
  rw [entrySegments, rewriteSegments_append, rewriteSegments_append]
  rfl

/-- Plain forms bring in no slots. -/
theorem isSlotDecorator_of_mem_entrySegments {pieces : List (Segment Decorator)}
    (h : ∀ decorator ∈ pieces.filterMap Segment.value?, isSlotDecorator decorator.name = false) :
    ∀ decorator ∈ (entrySegments kind workgroup pieces).filterMap Segment.value?,
      isSlotDecorator decorator.name = false := by
  intro decorator hmem
  rw [entrySegments, filterMap_value?_plainSegments, filterMap_value?_withoutChosen,
    List.mem_flatMap] at hmem
  obtain ⟨other, hother, hmem⟩ := hmem
  have hslot := h other (List.mem_filter.mp hother).1
  unfold plainDecorators at hmem
  split at hmem
  · rwa [List.mem_singleton.mp hmem]
  · split at hmem
    · rcases List.mem_cons.mp hmem with rfl | hmem
      · rfl
      · obtain ⟨size, -, rfl⟩ := Option.map_eq_some_iff.mp (Option.mem_toList.mp hmem)
        rfl
    · split at hmem
      · rw [List.mem_singleton.mp hmem]
        rfl
      · rwa [List.mem_singleton.mp hmem]

theorem isLooseEntry_of_isSlotDecorator (workgroup : Option Extent) (name : Text)
    (h : isSlotDecorator name = true) : isLooseEntry workgroup name = true := by
  simp [isLooseEntry, h]

/-- Up to the last slot decorator nothing that emission does brings in the word `var`. -/
theorem not_infix_entrySegments {after : Text} {pieces : List (Segment Decorator)}
    (h : StandApart (isLoose kind workgroup) after pieces)
    (hnone : ¬ "var".toList <:+: join pieces) :
    ¬ "var".toList <:+: join (entrySegments kind workgroup pieces) ∧
      ¬ "var".toList <:+: join (rewriteSegments (withoutChosen isSlotDecorator)
        (entrySegments kind workgroup pieces)) := by
  have hmarkup := @isLoose_of_isMarkup kind workgroup
  have hremoved : StandApart (isLooseEntry workgroup) after
      (rewriteSegments (withoutChosen (isMarkup kind)) pieces) :=
    (h.rewrite (fitsIn_withoutChosen hmarkup)).1.mono fun name hname => by simp [isLoose, hname]
  have hplain := not_infix_rewrite (bringsNoVar_plainSegments workgroup) hremoved
    (not_infix_rewrite (bringsNoVar_withoutChosen hmarkup) h hnone)
  exact ⟨hplain, not_infix_rewrite
    (bringsNoVar_withoutChosen (isLooseEntry_of_isSlotDecorator workgroup))
    (standApart_entrySegments h).1 hplain⟩

/-- A piece whose slots stand in front of its variables hides none of them. -/
theorem SlotsLead.not_hidesVariable {piece : Text} (h : SlotsLead kind workgroup piece)
    (hclosed : IsClosed piece) : ¬ HidesVariable kind workgroup piece := by
  have hsegments := standApart_decoratorSegments hclosed h.1
  have hplain := join_entrySegments hsegments
  rw [join_decoratorSegments] at hplain
  have hslots := isLooseEntry_of_isSlotDecorator workgroup
  rintro ⟨declared, hdeclared, hhidden⟩
  refine hhidden ?_
  rw [hplain] at hdeclared ⊢
  rw [removeDecorators_join hslots (standApart_entrySegments hsegments).1]
  obtain ⟨front, back, hsplit, hback, hfront⟩ :=
    exists_lead hsegments (fun name hname => by simp [isLoose, hslots name hname]) h.2
  have hkept : rewriteSegments (withoutChosen isSlotDecorator) (entrySegments kind workgroup back)
      = entrySegments kind workgroup back :=
    rewriteSegments_withoutChosen_of_none (isSlotDecorator_of_mem_entrySegments hback)
  have hvalue := congrArg (Option.map Found.value) hdeclared
  rw [hsplit, entrySegments_append] at hdeclared hvalue ⊢
  rw [rewriteSegments_append, hkept]
  rcases hfront with rfl | ⟨hnone, hdetached⟩
  · exact hvalue
  · -- Both searches find the first variable behind the last slot.
    have happart := hsegments
    rw [hsplit] at happart
    have hword := ((standApart_entrySegments happart.right).2.isDetached hdetached).left.1
    obtain ⟨hentries, hbare⟩ := not_infix_entrySegments happart.left hnone
    rw [join_append, map_value_findVariable?_append hentries hword] at hvalue
    rw [join_append, map_value_findVariable?_append hbare hword]
    exact hvalue

example :
    SlotsLead .resource none "@group(1) @sampler(@magFilter(linear)) var s: sampler;".toList := by
  decide +kernel

end Pieces

/-! ## Emission -/

/-- Where the first variable of a piece without markup belongs to a resource, so does the first
variable that is left when the slot decorators are gone too. -/
def KeepsResource (kind : ShaderKind) (workgroup : Option Extent) (resources : List Resource)
    (piece : Text) : Prop :=
  let plain := plainEntries workgroup (removeDecorators (isMarkup kind) piece)
  ∀ declared, findVariable? namedVariable plain = some declared →
    (resources.any fun resource => resource.name = declared.value) = true →
    ∃ found, findVariable? namedVariable (removeDecorators isSlotDecorator plain) = some found ∧
      (resources.any fun resource => resource.name = found.value) = true

section Emission

variable {kind : ShaderKind} {workgroup : Option Extent} {resources : List Resource}

/-- Putting a slot in front of a variable succeeds exactly if both searches agree on having one. -/
theorem isOk_bindVariable_iff {slotOf : Text → Option Slot} {plain : Text} :
    (∃ text, bindVariable slotOf plain = .ok text) ↔
      ∀ declared, findVariable? namedVariable plain = some declared →
        (slotOf declared.value).isSome = true →
        ∃ found, findVariable? namedVariable (removeDecorators isSlotDecorator plain) = some found ∧
          (slotOf found.value).isSome = true := by
  unfold bindVariable
  dsimp only
  cases findVariable? namedVariable plain with
  | none => simp
  | some declared =>
      cases hdeclared : slotOf declared.value with
      | none => simp [hdeclared]
      | some slot =>
          cases findVariable? namedVariable (removeDecorators isSlotDecorator plain) with
          | none => simp [hdeclared, giveUp]
          | some found => cases hfound : slotOf found.value <;> simp [hdeclared, hfound, giveUp]

/-- A piece gets its plain form exactly if it has an unclosed decorator or keeps its resource. -/
theorem isOk_plainPiece_iff {piece : Text} :
    (∃ text, plainPiece kind workgroup (slotNamed? resources) piece = .ok text) ↔
      (IsClosed piece → KeepsResource kind workgroup resources piece) := by
  by_cases hclosed : IsClosed piece
  · rw [plainPiece_of_isClosed hclosed, isOk_bindVariable_iff]
    simp only [isSome_slotNamed?, hclosed, KeepsResource, forall_const]
  · rw [plainPiece_of_not_isClosed hclosed]
    exact ⟨fun _ h => absurd h hclosed, fun _ => ⟨_, rfl⟩⟩

/-- Emission completes exactly if it does for every open piece. -/
theorem isOk_emit_iff {code : Text} {entry : Option EntryPoint} :
    (∃ plain, emit code resources kind entry = .ok plain) ↔
      ∀ piece ∈ openPieces code, ∃ text, plainPiece kind (entry.bind EntryPoint.workgroup?)
        (slotNamed? resources) piece = .ok text := by
  constructor
  · rintro ⟨plain, h⟩ piece hpiece
    obtain ⟨texts, htexts, -⟩ := bind_eq_ok_iff.mp h
    obtain ⟨region, hregion, hopen, hpiece⟩ := mem_openPieces.mp hpiece
    obtain ⟨atLineStart, text, -, htext⟩ := exists_of_mem_plainRegions htexts hregion
    rw [plainRegion_of_open hopen] at htext
    obtain ⟨pieces, hpieces, -⟩ := bind_eq_ok_iff.mp htext
    obtain ⟨value, -, hvalue⟩ := exists_of_mem_of_mapM_eq_ok hpieces hpiece
    exact ⟨value, hvalue⟩
  · intro h
    cases hemit : emit code resources kind entry with
    | ok plain => exact ⟨plain, rfl⟩
    | error fault =>
        rcases bind_eq_error_iff.mp hemit with herror | ⟨_, _, herror⟩
        · obtain ⟨region, hregion, hopen, piece, hpiece, hfault⟩ :=
            exists_of_plainRegions_eq_error herror
          obtain ⟨text, htext⟩ := h piece (mem_openPieces.mpr ⟨region, hregion, hopen, hpiece⟩)
          rw [hfault] at htext
          cases htext
        · cases herror

/-- Emission completes exactly if every piece of an open region without unclosed decorators keeps
its resource, and for that it is enough that its slots stand in front of its variables. -/
theorem emission_completes (code : Text) (resources : List Resource) (kind : ShaderKind)
    (entry : Option EntryPoint) :
    ((∃ plain, emit code resources kind entry = .ok plain) ↔
      ∀ piece ∈ openPieces code, IsClosed piece →
        KeepsResource kind (entry.bind EntryPoint.workgroup?) resources piece) ∧
    ((∀ piece ∈ openPieces code, IsClosed piece →
        SlotsLead kind (entry.bind EntryPoint.workgroup?) piece) →
      ∃ plain, emit code resources kind entry = .ok plain) := by
  refine ⟨?_, fun h => isOk_emit_iff.mpr fun piece hpiece => ?_⟩
  · rw [isOk_emit_iff]
    exact forall₂_congr fun piece _ => isOk_plainPiece_iff
  · cases hplain : plainPiece kind (entry.bind EntryPoint.workgroup?) (slotNamed? resources)
      piece with
    | ok text => exact ⟨text, rfl⟩
    | error fault =>
        have hclosed : IsClosed piece := by
          by_contra hopen
          rw [plainPiece_of_not_isClosed hopen] at hplain
          cases hplain
        exact absurd (hidesVariable_of_plainPiece_eq_error hplain).1
          ((h piece hpiece hclosed).not_hidesVariable hclosed)

end Emission

/-- The sampler `s` in the first binding. -/
def firstSampler : Resource where
  name := "s".toList
  binding := some 0
  detail := .sampler {}

/-- A resource whose variable stands in a slot decorator stops emission: behind the removal there is
no variable, or another one that is no resource. -/
theorem enclosed_variable_fails :
    emit "@group(var s: sampler);".toList [firstSampler] .resource none
        = .error (.abort .variableLost) ∧
      emit "@group(var s: sampler) var q: sampler;".toList [firstSampler] .resource none
        = .error (.abort (.slotUnknown "q".toList)) := by
  constructor <;> rfl

end ShaderMarkup
