import ShaderMarkup.Proofs.PlainForm
import ShaderMarkup.Proofs.Search

/-!
# The plain form of a declaration

A declaration is white space, decorators with white space behind each of them, and a tail that
starts with the variable (`DeclaredPiece`).  Its plain form has the same decorators without the
markup and the slots, then the slot of its resource, and then the tail (`DeclaredPiece.plainText`).

What stands in front of the tail is a list of segments, and decorators are taken out of it twice.
`Leads tail front` is what both removals keep (`Leads.without`): there is only white space between
the decorators, and they stand apart.  The variable of the tail is then the first one
(`Leads.findVariable?_append`), unless an argument hides another.  A decorator that is called `var`
is none: behind its name there is another mark, or the tail, and the word `var` of the tail is not
a name with a colon behind it.
-/

namespace ShaderMarkup

open Segment (join)

/-! ## Behind the word `var` -/

/-- The first character behind white space. -/
theorem blanks_append_inj {gap gap' rest rest' : Text} {c d : Char}
    (h : gap ++ c :: rest = gap' ++ d :: rest') (hgap : ∀ e ∈ gap, isBlank e = true)
    (hgap' : ∀ e ∈ gap', isBlank e = true) (hc : isBlank c = false) (hd : isBlank d = false) :
    c = d ∧ rest = rest' := by
  obtain ⟨-, heq⟩ := append_eq_append_of_run h hgap hgap' (by simpa using hc) (by simpa using hd)
  exact List.cons.inj heq

/-- The characters that may follow the word `var` and white space in a variable. -/
def opensName (c : Char) : Bool :=
  c == '<' || isNameStart c

theorem isBlank_eq_false_of_opensName {c : Char} (h : opensName c = true) : isBlank c = false := by
  rcases Bool.or_eq_true_iff.mp h with h | h
  · rw [beq_iff_eq.mp h]
    decide
  · exact isBlank_eq_false_of_isWord (isWord_of_isNameStart h)

/-- Behind the word `var` of a variable come its name and a colon, or template arguments. -/
theorem namedVariable_cases {more name rest : Text}
    (h : namedVariable ("var".toList ++ more) = some (name, rest)) :
    (∃ gap space, more = gap ++ (name ++ (space ++ ':' :: rest)) ∧ Reader.IsIdentifier name ∧
        (∀ c ∈ gap, isBlank c = true) ∧ ∀ c ∈ space, isBlank c = true) ∨
      ∃ gap behind, more = gap ++ '<' :: behind ∧ ∀ c ∈ gap, isBlank c = true := by
  obtain ⟨head, heq, hhead⟩ := exists_variableHead h
  cases hhead with
  | @plain gap space hname hgap hne hspace =>
      rw [List.append_assoc] at heq
      refine Or.inl ⟨gap, space, ?_, hname, hgap, hspace⟩
      simpa using List.append_cancel_left heq
  | @template lead inner gap space hname hlead hinner hgap hspace =>
      rw [List.append_assoc] at heq
      refine Or.inr ⟨lead, inner ++ '>' :: (gap ++ (name ++ (space ++ [':']))) ++ rest, ?_, hlead⟩
      simpa using List.append_cancel_left heq

theorem exists_opensName_of_namedVariable {more name rest : Text}
    (h : namedVariable ("var".toList ++ more) = some (name, rest)) :
    ∃ gap c behind, more = gap ++ c :: behind ∧ (∀ d ∈ gap, isBlank d = true) ∧
      opensName c = true := by
  rcases namedVariable_cases h with
    ⟨gap, space, rfl, ⟨c, others, rfl, hc, -⟩, hgap, -⟩ | ⟨gap, behind, rfl, hgap⟩
  · exact ⟨gap, c, _, rfl, hgap, by simp [opensName, hc]⟩
  · exact ⟨gap, '<', behind, rfl, hgap, rfl⟩

/-- A variable does not go on with a mark. -/
theorem namedVariable_mark_eq_none {gap : Text} (hgap : ∀ c ∈ gap, isBlank c = true)
    (rest : Text) : namedVariable ("var".toList ++ (gap ++ '@' :: rest)) = none := by
  cases hread : namedVariable ("var".toList ++ (gap ++ '@' :: rest)) with
  | none => rfl
  | some result =>
      obtain ⟨gap', c, behind, heq, hgap', hc⟩ := exists_opensName_of_namedVariable hread
      obtain ⟨rfl, -⟩ := blanks_append_inj heq hgap hgap' (by decide)
        (isBlank_eq_false_of_opensName hc)
      cases hc

/-- The word `var` of a variable is not the name of another. -/
theorem namedVariable_var_append_eq_none {gap tail name rest : Text}
    (hgap : ∀ c ∈ gap, isBlank c = true) (htail : namedVariable tail = some (name, rest)) :
    namedVariable ("var".toList ++ (gap ++ tail)) = none := by
  obtain ⟨more, rfl, hmore⟩ := exists_of_namedVariable htail
  obtain ⟨lead, c, behind, hbehind, hlead, hc⟩ := exists_opensName_of_namedVariable htail
  cases hread : namedVariable ("var".toList ++ (gap ++ ("var".toList ++ more))) with
  | none => rfl
  | some result =>
      rcases namedVariable_cases hread with
        ⟨gap', space, heq, ⟨d, others, hname, hd, hothers⟩, hgap', hspace⟩ |
          ⟨gap', inner, heq, hgap'⟩
      · -- The name is the word, so the colon is what stands behind the word.
        have hsolid := isBlank_eq_false_of_isWord (isWord_of_isNameStart hd)
        have hends : IsDetached (space ++ ':' :: result.2) :=
          .of_blank_cons hspace (fun _ => by decide) (by decide) (by decide) _
        have hword : ∀ e ∈ "ar".toList, isWord e = true := by decide
        rw [hname] at heq
        obtain ⟨-, heq⟩ := blanks_append_inj heq hgap hgap' (by decide) hsolid
        obtain ⟨-, hcolon⟩ := append_eq_append_of_run heq hword hothers hmore.1 hends.1
        rw [hbehind] at hcolon
        obtain ⟨rfl, -⟩ := blanks_append_inj hcolon hlead hspace
          (isBlank_eq_false_of_opensName hc) (by decide)
        cases hc
      · obtain ⟨hv, -⟩ := blanks_append_inj heq hgap hgap' (by decide) (by decide)
        cases hv

/-! ## Fronts -/

/-- The segments that stand in front of a tail: decorators with only white space between them, which
stand apart from each other and from the tail. -/
structure Leads (tail : Text) (front : List (Segment Decorator)) : Prop where
  apart : StandApart (fun _ => true) [] (front ++ tail.map .plain)
  blank : ∀ c, .plain c ∈ front → isBlank c = true

/-- No decorator hides a variable in its argument. -/
def HidesNoVar (front : List (Segment Decorator)) : Prop :=
  ∀ decorator ∈ front.filterMap Segment.value?, ∀ argument ∈ decorator.argument,
    ¬ "var".toList <:+: argument

namespace Leads

variable {tail : Text} {piece : Segment Decorator} {front : List (Segment Decorator)}

theorem rest (h : Leads tail (piece :: front)) : Leads tail front where
  apart := @StandApart.right _ _ [piece] _ h.apart
  blank c hc := h.blank c (List.mem_cons_of_mem piece hc)

theorem isDetached {decorator : Decorator} {written : Text}
    (h : Leads tail (.hit decorator written :: front)) : IsDetached (join front ++ tail) := by
  have hdetached := h.apart.2.1 (Or.inr rfl)
  rwa [List.append_eq, join_append, join_map_plain, List.append_nil] at hdetached

/-- The first character behind white space is a mark, or the tail starts there. -/
theorem exists_solid (h : Leads tail front) :
    ∃ gap more, join front ++ tail = gap ++ more ∧ (∀ c ∈ gap, isBlank c = true) ∧
      (more = tail ∨ ∃ rest, more = '@' :: rest) := by
  induction front with
  | nil => exact ⟨[], tail, rfl, by simp, Or.inl rfl⟩
  | cons piece front ih =>
      cases piece with
      | plain c =>
          obtain ⟨gap, more, heq, hgap, hmore⟩ := ih h.rest
          refine ⟨c :: gap, more, ?_, ?_, hmore⟩
          · rw [join_plain, List.cons_append, heq]
            rfl
          · exact List.forall_mem_cons.mpr ⟨h.blank c List.mem_cons_self, hgap⟩
      | hit decorator written =>
          obtain ⟨others, rfl⟩ := h.apart.1.exists_eq_cons
          refine ⟨[], '@' :: (others ++ (join front ++ tail)), ?_, by simp, Or.inr ⟨_, rfl⟩⟩
          rw [join_hit, List.append_assoc]
          rfl

variable {name after : Text} (hread : namedVariable tail = some (name, after))
include hread

/-- A front ends with white space. -/
theorem isWord_getLast? (h : Leads tail front) :
    ∀ c ∈ (join front).getLast?, isWord c = false := by
  induction front with
  | nil => simp
  | cons piece front ih =>
      intro c hc
      cases hend : (join front).getLast? with
      | some d =>
          refine ih h.rest c ?_
          cases piece <;> simpa [List.getLast?_cons, hend] using hc
      | none =>
          cases piece with
          | plain d =>
              rw [join_plain, List.getLast?_cons, hend] at hc
              cases hc
              exact isWord_eq_false_of_isBlank (h.blank _ List.mem_cons_self)
          | hit decorator written =>
              -- A decorator at the end would go on with the word `var`.
              obtain ⟨more, rfl, -⟩ := exists_of_namedVariable hread
              have hdetached := h.isDetached
              rw [List.getLast?_eq_none_iff.mp hend] at hdetached
              exact absurd (hdetached.1 'v' rfl) (by decide)

/-- No variable starts in a decorator of the front. -/
theorem refuses_within {decorator : Decorator} {written left right : Text} {c : Char}
    (h : Leads tail (.hit decorator written :: front))
    (hfree : ∀ argument ∈ decorator.argument, ¬ "var".toList <:+: argument)
    (hwritten : written = left ++ c :: right) (hstart : ∀ d ∈ left.getLast?, isWord d = false) :
    namedVariable (c :: right ++ (join front ++ tail)) = none := by
  cases hvariable : namedVariable (c :: right ++ (join front ++ tail)) with
  | none => rfl
  | some result =>
      obtain ⟨more, heq, hmore⟩ := exists_of_namedVariable hvariable
      obtain rfl : c = 'v' := (List.cons.inj heq).1
      rcases h.apart.1.exists_of_var hwritten hstart heq hmore fun _ => h.isDetached with
        ⟨hbare, rfl, -⟩ | ⟨_, _, before, inside, close, rfl, -, hinside, -, -, -, hclose⟩
      · -- The decorator is called `var`.
        have hword : 'v' :: right = "var".toList :=
          List.append_cancel_left (hwritten.symm.trans hbare)
        obtain ⟨gap, solid, hsolid, hgap, rfl | ⟨others, rfl⟩⟩ := h.rest.exists_solid
        · rw [hword, hsolid, namedVariable_var_append_eq_none hgap hread] at hvariable
          cases hvariable
        · rw [hword, hsolid, namedVariable_mark_eq_none hgap] at hvariable
          cases hvariable
      · -- The word ends in front of the bracket that closes the argument.
        refine absurd ?_ (hfree _ rfl)
        rw [hinside, List.append_assoc, List.singleton_append] at heq
        have hends : ∀ e ∈ (close :: (join front ++ tail)).head?, isWord e = false := by
          simpa using isWord_eq_false_of_isClosing hclose
        have hstarts : "var".toList <+: inside := isPrefix_of_word heq (by decide) hends
        exact hstarts.isInfix.trans List.infix_append_right

/-- No variable starts in a front. -/
theorem refuses (h : Leads tail front) (hfree : HidesNoVar front) (before : Option Char)
    (left : Text) (c : Char) (right : Text) (hjoin : join front = left ++ c :: right) :
    atWordStart namedVariable (left.getLast?.or before) (c :: right ++ tail) = none := by
  induction front generalizing left before with
  | nil => simp at hjoin
  | cons piece front ih =>
      cases piece with
      | plain d =>
          rw [join_plain] at hjoin
          cases left with
          | nil =>
              obtain ⟨rfl, rfl⟩ := List.cons.inj hjoin
              have hnone : namedVariable (d :: join front ++ tail) = none := by
                refine namedVariable_eq_none ?_
                rintro ⟨more, hmore⟩
                obtain rfl : 'v' = d := (List.cons.inj hmore).1
                exact absurd (h.blank 'v' List.mem_cons_self) (by decide)
              rw [atWordStart, hnone, ite_self]
          | cons e left =>
              obtain ⟨rfl, hrest⟩ := List.cons.inj hjoin
              rw [getLast?_cons_or]
              exact ih h.rest hfree (some d) left hrest
      | hit decorator written =>
          have hfree' := List.forall_mem_cons.mp hfree
          rw [join_hit] at hjoin
          rcases List.append_eq_append_iff.mp hjoin with
            ⟨behind, rfl, hbehind⟩ | ⟨inner, hwritten, hinner⟩
          · rw [List.getLast?_append, Option.or_assoc]
            exact ih h.rest hfree'.2 (written.getLast?.or before) behind hbehind
          · cases inner with
            | nil =>
                rw [List.append_nil] at hwritten
                have hread := ih h.rest hfree'.2 (written.getLast?.or before) [] hinner.symm
                rwa [hwritten] at hread
            | cons d inner =>
                rw [List.cons_append] at hinner
                obtain ⟨rfl, rfl⟩ := List.cons.inj hinner
                rw [atWordStart]
                split
                next => rfl
                next hword =>
                  rw [List.cons_append, List.append_assoc, ← List.cons_append]
                  refine refuses_within hread h hfree'.1 hwritten fun d hd => ?_
                  rw [Option.mem_def.mp hd] at hword
                  simpa using hword

/-- The variable of the tail is the first one. -/
theorem findVariable?_append (h : Leads tail front) (hfree : HidesNoVar front) :
    findVariable? namedVariable (join front ++ tail)
      = some ⟨name, (join front).length, (join front).length + (tail.length - after.length)⟩ := by
  have hstart : atWordStart namedVariable ((join front).getLast?.or none) tail
      = some (name, after) := by
    have hlast := h.isWord_getLast? hread
    rw [Option.or_none, atWordStart, if_neg, hread]
    cases hend : (join front).getLast? with
    | none => simp
    | some c => simpa using hlast c hend
  rw [findVariable?, search, searchFrom_append_of_refuses (h.refuses hread hfree none),
    searchFrom_of_some hstart, Nat.zero_add]

end Leads

/-! ## Taking decorators out of a front -/

@[simp] theorem rewriteSegments_map_plain (form : Decorator → Text → List (Segment Decorator))
    (text : Text) : rewriteSegments form (text.map .plain) = text.map .plain := by
  induction text with
  | nil => rfl
  | cons c text ih => rw [List.map_cons, rewriteSegments_plain, ih]

theorem mem_of_mem_withoutChosen {chosen : Text → Bool} {front : List (Segment Decorator)}
    {piece : Segment Decorator} (h : piece ∈ rewriteSegments (withoutChosen chosen) front) :
    piece ∈ front := by
  obtain ⟨other, hother, hmem⟩ := List.mem_flatMap.mp h
  cases other with
  | plain c => rwa [List.mem_singleton.mp hmem]
  | hit decorator written =>
      dsimp only [withoutChosen] at hmem
      split at hmem
      · cases hmem
      · rwa [List.mem_singleton.mp hmem]

/-- Where no stage is named, entry points are left as they are. -/
theorem rewriteSegments_plainSegments_of_none {workgroup : Option Extent}
    {pieces : List (Segment Decorator)}
    (h : ∀ decorator ∈ pieces.filterMap Segment.value?,
      decorator.name ≠ "compute".toList ∧ decorator.name ≠ "fragment".toList) :
    rewriteSegments (plainSegments workgroup) pieces = pieces := by
  induction pieces with
  | nil => rfl
  | cons piece rest ih =>
      cases piece with
      | plain c => exact congrArg _ (ih h)
      | hit decorator written =>
          have hmem := List.forall_mem_cons.mp h
          rw [rewriteSegments_hit, ih hmem.2, plainSegments, if_neg hmem.1.1, if_neg hmem.1.2,
            ite_self]
          rfl

/-- A text without marks stands apart from anything. -/
theorem standApart_map_plain {loose : Text → Bool} {after text : Text} (h : '@' ∉ text) :
    StandApart loose after (text.map .plain) := by
  have hall : StandApart loose after (text.map .plain ++ []) :=
    standApart_map_plain_append h trivial
  rwa [List.append_nil] at hall

/-- In front of a mark segments stand apart, whatever stood behind them before. -/
theorem StandApart.before_mark {loose : Text → Bool} {after : Text}
    {pieces : List (Segment Decorator)} (h : StandApart loose after pieces) (rest : Text) :
    StandApart loose ('@' :: rest) pieces := by
  induction pieces with
  | nil => trivial
  | cons piece pieces ih =>
      cases piece with
      | plain c => exact ⟨h.1, ih h.2⟩
      | hit decorator written =>
          exact ⟨h.1, fun hneeds => (h.2.1 hneeds).left.append_mark rest, ih h.2.2⟩

namespace Leads

variable {tail : Text} {front : List (Segment Decorator)}

theorem without (h : Leads tail front) (chosen : Text → Bool) :
    Leads tail (rewriteSegments (withoutChosen chosen) front) where
  apart := by
    have hfits : FitsIn (fun _ => true) (withoutChosen chosen) :=
      fitsIn_withoutChosen fun _ _ => rfl
    have hrewritten := (h.apart.rewrite hfits).1
    rwa [rewriteSegments_append, rewriteSegments_map_plain] at hrewritten
  blank c hc := h.blank c (mem_of_mem_withoutChosen hc)

theorem removeDecorators_eq (h : Leads tail front) (chosen : Text → Bool) :
    removeDecorators chosen (join front ++ tail)
      = join (rewriteSegments (withoutChosen chosen) front) ++ tail := by
  have hremoved := @removeDecorators_join _ _ _ chosen (fun _ _ => rfl) h.apart
  rwa [rewriteSegments_append, rewriteSegments_map_plain, join_append, join_append, join_map_plain]
    at hremoved

theorem plainEntries_eq (h : Leads tail front) (workgroup : Option Extent)
    (hstage : ∀ decorator ∈ front.filterMap Segment.value?,
      decorator.name ≠ "compute".toList ∧ decorator.name ≠ "fragment".toList) :
    plainEntries workgroup (join front ++ tail) = join front ++ tail := by
  have hplain := plainEntries_join workgroup h.apart
  rwa [rewriteSegments_append, rewriteSegments_map_plain,
    rewriteSegments_plainSegments_of_none hstage, join_append, join_map_plain] at hplain

/-- The slot of the variable stands in front of the tail, in place of any other slot. -/
theorem bindVariable_eq (h : Leads tail front) (hfree : HidesNoVar front) {name after : Text}
    (hread : namedVariable tail = some (name, after)) {slotOf : Text → Option Slot} {slot : Slot}
    (hslot : slotOf name = some slot) :
    bindVariable slotOf (join front ++ tail)
      = .ok (join (rewriteSegments (withoutChosen isSlotDecorator) front)
          ++ (slotText slot ++ tail)) := by
  have hfree' : HidesNoVar (rewriteSegments (withoutChosen isSlotDecorator) front) := by
    intro decorator hmem
    rw [filterMap_value?_withoutChosen] at hmem
    exact hfree decorator (List.mem_filter.mp hmem).1
  have hfound := h.findVariable?_append hread hfree
  have hfound' := (h.without isSlotDecorator).findVariable?_append hread hfree'
  simp only [bindVariable, hfound, hslot, h.removeDecorators_eq, hfound', Option.isNone_some,
    Bool.false_eq_true, if_false, List.take_left, List.drop_left, List.append_assoc]

/-- The segments of a front, a slot and the tail. -/
theorem decoratorSegments_slot (h : Leads tail front) {name after : Text}
    (hread : namedVariable tail = some (name, after)) (htail : '@' ∉ tail) (slot : Slot) :
    decoratorSegments (join front ++ (slotText slot ++ tail))
      = front ++ (slotSegments slot ++ tail.map .plain) := by
  obtain ⟨more, rfl, -⟩ := exists_of_namedVariable hread
  have hslot : StandApart (fun _ => true) []
      (slotSegments slot ++ ("var".toList ++ more).map .plain) :=
    standApart_slotSegments slot (join_map_plain _) (standApart_map_plain htail)
  have hall : StandApart (fun _ => true) []
      (front ++ (slotSegments slot ++ ("var".toList ++ more).map .plain)) := by
    refine StandApart.append (h.apart.left.before_mark _) hslot fun _ d hd => ?_
    cases hd
    decide
  have hsegments := decoratorSegments_join hall
  rwa [join_append, join_append, join_slotSegments, join_map_plain] at hsegments

end Leads

/-! ## Declarations -/

/-- A decorator with white space behind it. -/
structure Mark where
  decorator : Decorator
  written : Text
  gap : Text
  spelled : decorator.Spelled written
  gap_ne_nil : gap ≠ []
  gap_blank : ∀ c ∈ gap, isBlank c = true

theorem Decorator.Spelled.isBalanced {decorator : Decorator} {written : Text}
    (h : decorator.Spelled written) : decorator.balanced = true := by
  cases h <;> rfl

def Mark.segments (mark : Mark) : List (Segment Decorator) :=
  .hit mark.decorator mark.written :: mark.gap.map .plain

/-- A declaration: white space, decorators, and a tail that starts with its variable. -/
structure DeclaredPiece where
  lead : Text
  marks : List Mark
  tail : Text
  name : Text
  lead_blank : ∀ c ∈ lead, isBlank c = true
  tail_free : '@' ∉ tail
  declares : (namedVariable tail).map (·.1) = some name

theorem not_mem_of_blank {text : Text} (h : ∀ c ∈ text, isBlank c = true) : '@' ∉ text :=
  fun hmem => absurd (h '@' hmem) (by decide)

/-- Decorators with white space behind each stand apart from each other and from a variable. -/
theorem standApart_marks {tail more : Text} (htail : '@' ∉ tail) (hstart : tail = 'v' :: more)
    (marks : List Mark) :
    StandApart (fun _ => true) [] (marks.flatMap Mark.segments ++ tail.map .plain) ∧
      ∃ c rest, join (marks.flatMap Mark.segments ++ tail.map .plain) = c :: rest ∧
        isBlank c = false ∧ c ≠ '(' := by
  induction marks with
  | nil =>
      refine ⟨?_, 'v', more, ?_, by decide, by decide⟩
      · exact standApart_map_plain htail
      · rw [List.flatMap_nil, List.nil_append, join_map_plain, hstart]
  | cons mark marks ih =>
      obtain ⟨hrest, c, rest, hjoin, hblank, hbracket⟩ := ih
      rw [List.flatMap_cons, Mark.segments, List.cons_append, List.cons_append, List.append_assoc]
      refine ⟨⟨mark.spelled, fun _ => ?_,
        standApart_map_plain_append (not_mem_of_blank mark.gap_blank) hrest⟩, ?_⟩
      · rw [List.append_nil, join_append, join_map_plain, hjoin]
        exact .of_blank_cons mark.gap_blank (fun hnil => absurd hnil mark.gap_ne_nil) hblank
          hbracket rest
      · obtain ⟨others, hwritten⟩ := mark.spelled.exists_eq_cons
        rw [join_hit, hwritten]
        exact ⟨'@', _, rfl, by decide, by decide⟩

/-- Taking decorators out in two steps is taking them out in one. -/
theorem rewriteSegments_withoutChosen_twice (first second : Text → Bool)
    (pieces : List (Segment Decorator)) :
    rewriteSegments (withoutChosen second) (rewriteSegments (withoutChosen first) pieces)
      = rewriteSegments (withoutChosen fun name => first name || second name) pieces := by
  induction pieces with
  | nil => rfl
  | cons piece rest ih =>
      cases piece with
      | plain c => exact congrArg _ ih
      | hit decorator written =>
          rw [rewriteSegments_hit, rewriteSegments_append, ih, rewriteSegments_hit]
          by_cases hfirst : first decorator.name = true
          · simp [withoutChosen, hfirst, rewriteSegments]
          · simp [withoutChosen, hfirst, rewriteSegments]

namespace DeclaredPiece

/-- The text in front of the tail with some of the decorators.  The white space stays. -/
def frontText (keeps : Text → Bool) (piece : DeclaredPiece) : Text :=
  piece.lead ++ piece.marks.flatMap fun mark =>
    (if keeps mark.decorator.name then mark.written else []) ++ mark.gap

/-- The declaration as it is written. -/
def text (piece : DeclaredPiece) : Text :=
  piece.frontText (fun _ => true) ++ piece.tail

/-- The names of the decorators that are taken out of a declaration. -/
def isDropped (kind : ShaderKind) (name : Text) : Bool :=
  isMarkup kind name || isSlotDecorator name

/-- The declaration without markup and slots, and with its own slot in front of the variable. -/
def plainText (kind : ShaderKind) (slot : Slot) (piece : DeclaredPiece) : Text :=
  piece.frontText (fun name => !isDropped kind name) ++ (slotText slot ++ piece.tail)

/-- The segments in front of the tail. -/
def front (piece : DeclaredPiece) : List (Segment Decorator) :=
  piece.lead.map .plain ++ piece.marks.flatMap Mark.segments

variable (piece : DeclaredPiece)

theorem exists_read : ∃ after, namedVariable piece.tail = some (piece.name, after) := by
  obtain ⟨result, hread, hname⟩ := Option.map_eq_some_iff.mp piece.declares
  exact ⟨result.2, by rw [hread, ← hname]⟩

theorem leads : Leads piece.tail piece.front where
  apart := by
    obtain ⟨after, hread⟩ := piece.exists_read
    obtain ⟨more, htail, -⟩ := exists_of_namedVariable hread
    rw [front, List.append_assoc]
    exact standApart_map_plain_append (not_mem_of_blank piece.lead_blank)
      (standApart_marks piece.tail_free htail piece.marks).1
  blank c hc := by
    rcases List.mem_append.mp hc with hc | hc
    · obtain ⟨d, hd, heq⟩ := List.mem_map.mp hc
      cases heq
      exact piece.lead_blank c hd
    · obtain ⟨mark, -, hc⟩ := List.mem_flatMap.mp hc
      rcases List.mem_cons.mp hc with heq | hc
      · cases heq
      · obtain ⟨d, hd, heq⟩ := List.mem_map.mp hc
        cases heq
        exact mark.gap_blank c hd

theorem filterMap_value?_front :
    piece.front.filterMap Segment.value? = piece.marks.map (·.decorator) := by
  rw [front, List.filterMap_append, filterMap_value?_plain, List.nil_append]
  induction piece.marks with
  | nil => rfl
  | cons mark marks ih =>
      rw [List.flatMap_cons, List.filterMap_append, ih, Mark.segments,
        List.filterMap_cons_some (rfl : Segment.value? _ = some mark.decorator),
        filterMap_value?_plain]
      rfl

theorem join_without_front (chosen : Text → Bool) :
    join (rewriteSegments (withoutChosen chosen) piece.front)
      = piece.frontText fun name => !chosen name := by
  rw [front, rewriteSegments_append, rewriteSegments_map_plain, join_append, join_map_plain,
    frontText]
  congr 1
  induction piece.marks with
  | nil => rfl
  | cons mark marks ih =>
      rw [List.flatMap_cons, rewriteSegments_append, join_append, ih, List.flatMap_cons,
        Mark.segments, rewriteSegments_hit, rewriteSegments_map_plain, join_append, join_map_plain]
      congr 2
      cases hchosen : chosen mark.decorator.name <;> simp [withoutChosen, hchosen]

theorem join_front : join piece.front ++ piece.tail = piece.text := by
  have hall := piece.join_without_front fun _ => false
  rw [rewriteSegments_withoutChosen_of_none fun _ _ => rfl] at hall
  rw [hall]
  rfl

theorem map_value_calls_text :
    (calls piece.text).map (·.value) = piece.marks.map (·.decorator) := by
  have hsegments := decoratorSegments_join piece.leads.apart
  rw [join_append, join_map_plain, join_front] at hsegments
  rw [map_value_calls, hsegments, List.filterMap_append, filterMap_value?_front,
    filterMap_value?_plain, List.append_nil]

theorem isClosed_text : IsClosed piece.text := by
  intro call hcall
  have hmem : call.value ∈ (calls piece.text).map (·.value) := List.mem_map_of_mem hcall
  rw [map_value_calls_text] at hmem
  obtain ⟨mark, -, hmark⟩ := List.mem_map.mp hmem
  rw [← hmark]
  exact mark.spelled.isBalanced

/-- The decorators of the plain form: those that stay, and the slot. -/
theorem map_value_calls_plainText (kind : ShaderKind) (slot : Slot) :
    (calls (piece.plainText kind slot)).map (·.value)
      = ((calls piece.text).map (·.value)).filter (fun decorator => !isDropped kind decorator.name)
        ++ [.filled "group" (Text.ofInt slot.group),
          .filled "binding" (Text.ofInt slot.binding)] := by
  obtain ⟨after, hread⟩ := piece.exists_read
  have hsegments := (piece.leads.without (isDropped kind)).decoratorSegments_slot hread
    piece.tail_free slot
  rw [join_without_front] at hsegments
  rw [map_value_calls_text, map_value_calls, plainText, hsegments, List.filterMap_append,
    List.filterMap_append, filterMap_value?_plain, List.append_nil,
    filterMap_value?_withoutChosen, filterMap_value?_front]
  rfl

/-- The decorators that are left when some are taken out. -/
theorem exists_mark_of_mem_without {chosen : Text → Bool} {decorator : Decorator}
    (h : decorator ∈
      (rewriteSegments (withoutChosen chosen) piece.front).filterMap Segment.value?) :
    ∃ mark ∈ piece.marks, mark.decorator = decorator ∧ chosen mark.decorator.name = false := by
  rw [filterMap_value?_withoutChosen, filterMap_value?_front, List.mem_filter] at h
  obtain ⟨mark, hmark, rfl⟩ := List.mem_map.mp h.1
  exact ⟨mark, hmark, rfl, by simpa using h.2⟩

/-- The plain form of a declaration that names no stage and hides no variable in a decorator other
than markup.  Its decorators are those of the declaration that are neither markup nor slots, in the
same order, and then the slot of its resource; it ends with the same tail. -/
theorem plainPiece_eq_plainText (kind : ShaderKind) (workgroup : Option Extent)
    {slotOf : Text → Option Slot} {slot : Slot} (hslot : slotOf piece.name = some slot)
    (hstage : ∀ mark ∈ piece.marks,
      mark.decorator.name ≠ "compute".toList ∧ mark.decorator.name ≠ "fragment".toList)
    (hfree : ∀ mark ∈ piece.marks, isMarkup kind mark.decorator.name = false →
      ∀ argument ∈ mark.decorator.argument, ¬ "var".toList <:+: argument) :
    plainPiece kind workgroup slotOf piece.text = .ok (piece.plainText kind slot) ∧
      (calls (piece.plainText kind slot)).map (·.value)
        = ((calls piece.text).map (·.value)).filter (fun decorator =>
            !isDropped kind decorator.name)
          ++ [.filled "group" (Text.ofInt slot.group),
            .filled "binding" (Text.ofInt slot.binding)] ∧
      piece.tail <:+ piece.plainText kind slot := by
  refine ⟨?_, piece.map_value_calls_plainText kind slot, ?_⟩
  · obtain ⟨after, hread⟩ := piece.exists_read
    have hleads := piece.leads.without (isMarkup kind)
    have hhides : HidesNoVar (rewriteSegments (withoutChosen (isMarkup kind)) piece.front) := by
      intro decorator hmem
      obtain ⟨mark, hmark, rfl, hmarkup⟩ := piece.exists_mark_of_mem_without hmem
      exact hfree mark hmark hmarkup
    have hboth : rewriteSegments (withoutChosen isSlotDecorator)
        (rewriteSegments (withoutChosen (isMarkup kind)) piece.front)
          = rewriteSegments (withoutChosen (isDropped kind)) piece.front :=
      rewriteSegments_withoutChosen_twice _ _ _
    rw [plainPiece_of_isClosed piece.isClosed_text, ← join_front,
      piece.leads.removeDecorators_eq, hleads.plainEntries_eq workgroup,
      hleads.bindVariable_eq hhides hread hslot, hboth, join_without_front]
    · rfl
    · intro decorator hmem
      obtain ⟨mark, hmark, rfl, -⟩ := piece.exists_mark_of_mem_without hmem
      exact hstage mark hmark
  · rw [plainText, ← List.append_assoc]
    exact List.suffix_append _ _

end DeclaredPiece

/-- A decorator with a space behind it, from its text. -/
def Mark.spaced (decorator : Decorator) (written : Text)
    (hread : Decorator.read written = some (decorator, []))
    (hbalanced : decorator.balanced = true) : Mark where
  decorator := decorator
  written := written
  gap := [' ']
  spelled := by
    obtain ⟨text, heq, hspelled⟩ := Decorator.spelled_of_read hread hbalanced
    rwa [heq, List.append_nil]
  gap_ne_nil := by decide
  gap_blank := by decide

/-- A declaration with markup, a slot of its own, and a decorator that is called `var`. -/
def slottedPiece : DeclaredPiece where
  lead := ['\n']
  marks := [
    .spaced ⟨"var".toList, none, true⟩ "@var".toList (by decide) rfl,
    .spaced (.filled "group" ['3']) "@group(3)".toList (by decide) rfl,
    .spaced (.filled "foo" "a(b)".toList) "@foo (a(b))".toList (by decide) rfl,
    .spaced (.filled "size" "var x: T".toList) "@size(var x: T)".toList (by decide) rfl,
    .spaced (.filled "binding" ['7']) "@binding(7)".toList (by decide) rfl]
  tail := "var<uniform> s: S;".toList
  name := ['s']
  lead_blank := by decide
  tail_free := by decide
  declares := by decide

/-- The slot of the one resource. -/
def slotOfS (name : Text) : Option Slot :=
  if name = ['s'] then some ⟨1, 2⟩ else none

theorem plainPiece_eq_plainText_slottedPiece :
    slottedPiece.text
        = "\n@var @group(3) @foo (a(b)) @size(var x: T) @binding(7) var<uniform> s: S;".toList ∧
      plainPiece .resource none slotOfS slottedPiece.text
        = .ok "\n@var  @foo (a(b))   @group(1) @binding(2) var<uniform> s: S;".toList ∧
      (calls (slottedPiece.plainText .resource ⟨1, 2⟩)).map (·.value)
        = [⟨"var".toList, none, true⟩, .filled "foo" "a(b)".toList, .filled "group" ['1'],
          .filled "binding" ['2']] := by
  have hslot : slotOfS slottedPiece.name = some ⟨1, 2⟩ := rfl
  obtain ⟨hplain, hcalls, -⟩ :=
    slottedPiece.plainPiece_eq_plainText .resource none hslot (by decide) (by decide)
  refine ⟨by decide +kernel, hplain.trans (congrArg Except.ok ?_), hcalls.trans ?_⟩
  · decide +kernel
  · rw [slottedPiece.map_value_calls_text]
    decide +kernel

end ShaderMarkup
