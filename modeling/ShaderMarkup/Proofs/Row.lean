import Mathlib.Data.List.ReduceOption
import ShaderMarkup.Proofs.Mention
import ShaderMarkup.Proofs.Spacing

/-!
# Rows of decorators

A declaration is a row of decorators with a space behind each, and a tail without decorators.

* `Decorator.text` writes a decorator, and `Decorator.IsWritten.read` says that it is read back.
* A row is cut into its decorators (`decoratorSegments_rowText`).  So its calls are the decorators
  (`map_value_calls_rowText`), and taking some of them out leaves the row of the others
  (`removeDecorators_rowText`).  A place where a decorator was keeps its space: a row is a list of
  places, filled or not.
* What is found at any depth comes from the calls and their arguments (`map_value_walkWithin`).
  `Decorator.IsLeaf` says that an argument holds no decorators, and `Decorator.Holds` which ones it
  holds.
* Brackets come in equal numbers in a row if they do in its parts (`IsEven.rowText`).
-/

namespace ShaderMarkup

/-! ## Written decorators -/

/-- The text of a decorator whose bracket closes. -/
def Decorator.text (decorator : Decorator) : Text :=
  '@' :: (decorator.name ++ decorator.argument.elim [] fun argument => '(' :: (argument ++ [')']))

/-- Every bracket that opens in the text closes in it, and the other way round. -/
def IsNested (text : Text) : Prop :=
  ∀ depth : Int, 1 ≤ depth → ∀ rest, closingFrom isOpening isClosing depth (text ++ rest)
    = (closingFrom isOpening isClosing depth rest).map (· + text.length)

namespace IsNested

theorem nil : IsNested [] := by
  intro depth _ rest
  simp

theorem append {a b : Text} (ha : IsNested a) (hb : IsNested b) : IsNested (a ++ b) := by
  intro depth hdepth rest
  rw [List.append_assoc, ha depth hdepth, hb depth hdepth, Option.map_map, List.length_append]
  congr 1
  funext width
  simp only [Function.comp_apply]
  omega

theorem cons {c : Char} {text : Text} (hopening : isOpening c = false)
    (hclosing : isClosing c = false) (h : IsNested text) : IsNested (c :: text) := by
  intro depth hdepth rest
  rw [List.cons_append, closingFrom, if_neg (by simp [hopening]), if_neg (by simp [hclosing]),
    h depth hdepth, Option.map_map, List.length_cons]
  rfl

theorem of_free {text : Text} (h : ∀ c ∈ text, isOpening c = false ∧ isClosing c = false) :
    IsNested text := by
  induction text with
  | nil => exact nil
  | cons c rest ih =>
      rw [List.forall_mem_cons] at h
      exact cons h.1.1 h.1.2 (ih h.2)

/-- The text in brackets. -/
theorem bracketed {text : Text} (h : IsNested text) {opening closing : Char}
    (hopening : isOpening opening = true)
    (hclosing : isOpening closing = false ∧ isClosing closing = true) :
    IsNested (opening :: (text ++ [closing])) := by
  intro depth hdepth rest
  have hclose : closingFrom isOpening isClosing (depth + 1) (closing :: rest)
      = (closingFrom isOpening isClosing depth rest).map (· + 1) := by
    rw [closingFrom, if_neg (by simp [hclosing.1]), if_pos hclosing.2, if_neg (by omega),
      Int.add_sub_cancel]
  rw [List.cons_append, closingFrom, if_pos hopening, List.append_assoc,
    h (depth + 1) (by omega), List.singleton_append, hclose, Option.map_map, Option.map_map]
  congr 1
  funext width
  simp only [Function.comp_apply, List.length_cons, List.length_append, List.length_nil]
  omega

/-- The bracket around a nested text closes behind it. -/
theorem closingBracket? {text : Text} (h : IsNested text) (rest : Text) :
    closingBracket? ('(' :: (text ++ ')' :: rest)) = some (text.length + 1) := by
  have hclose : closingFrom isOpening isClosing 1 (')' :: rest) = some 0 := by
    rw [closingFrom, if_neg (by decide), if_pos (by decide), if_pos rfl]
  rw [ShaderMarkup.closingBracket?, closingFrom, if_pos (by decide), Int.zero_add,
    h 1 (by decide), hclose, Option.map_some, Option.map_some, Nat.zero_add]

end IsNested

/-- A decorator as it can be written: its bracket closes where it should. -/
structure Decorator.IsWritten (decorator : Decorator) : Prop where
  name : Reader.IsIdentifier decorator.name
  argument : ∀ argument ∈ decorator.argument, IsNested argument
  balanced : decorator.balanced = true

/-- A text that a decorator without an argument can stand in front of. -/
def EndsName (text : Text) : Prop :=
  (∀ c ∈ text.head?, isWord c = false) ∧ ∀ c ∈ (text.dropWhile isGap).head?, c ≠ '('

theorem isBlank_of_isGap {c : Char} (h : isGap c = true) : isBlank c = true := by
  simp only [isGap, Bool.or_eq_true, beq_iff_eq] at h
  rcases h with ((rfl | rfl) | rfl) | rfl <;> decide

/-- What is written is read back. -/
theorem Decorator.IsWritten.read {decorator : Decorator} (h : decorator.IsWritten) {rest : Text}
    (hrest : EndsName rest) : Decorator.read (decorator.text ++ rest) = some (decorator, rest) := by
  obtain ⟨name, argument, balanced⟩ := decorator
  obtain ⟨hname, hargument, hbalanced⟩ := h
  cases hbalanced
  cases argument with
  | none =>
      have hidentifier : Reader.identifier (name ++ rest) = some (name, rest) :=
        Reader.identifier_eq_some_iff.mpr ⟨hname, rfl, hrest.1⟩
      have hnothing : readArgument name rest = (⟨name, none, true⟩, rest) := by
        rw [readArgument]
        split
        next body heq => exact absurd rfl (hrest.2 '(' (by simp [heq]))
        next => rfl
      simp only [text, Option.elim_none, List.append_nil, List.cons_append, Decorator.read,
        hidentifier, hnothing]
  | some argument =>
      have hidentifier : Reader.identifier (name ++ '(' :: (argument ++ ')' :: rest))
          = some (name, '(' :: (argument ++ ')' :: rest)) :=
        Reader.identifier_eq_some_iff.mpr ⟨hname, rfl, by simp; decide⟩
      have hread : readArgument name ('(' :: (argument ++ ')' :: rest))
          = (⟨name, some argument, true⟩, rest) := by
        rw [readArgument, List.dropWhile_cons_of_neg (by decide)]
        simp only [(hargument argument rfl).closingBracket? rest]
        congr 1
        · simp
        · rw [← List.singleton_append, ← List.append_assoc,
            List.drop_left' (by rw [List.length_append]; rfl)]
      simp only [text, Option.elim_some, List.append_assoc, List.cons_append, List.nil_append,
        Decorator.read, hidentifier, hread]

theorem decoratorSegments_text {decorator : Decorator} (h : decorator.IsWritten) {rest : Text}
    (hrest : EndsName rest) :
    decoratorSegments (decorator.text ++ rest)
      = .hit decorator decorator.text :: decoratorSegments rest := by
  have hread : anywhere Decorator.read none (decorator.text ++ rest) = some (decorator, rest) :=
    h.read hrest
  have hne : decorator.text ≠ [] := by simp [Decorator.text]
  rw [decoratorSegments, segments, segmentsFrom_of_some hne hread, segmentsFrom_anywhere]
  rfl

theorem decoratorSegments_cons {c : Char} (hc : c ≠ '@') (rest : Text) :
    decoratorSegments (c :: rest) = .plain c :: decoratorSegments rest := by
  have hread : anywhere Decorator.read none (c :: rest) = none := by
    show Decorator.read (c :: rest) = none
    unfold Decorator.read
    split
    next heq =>
      cases heq
      exact absurd rfl hc
    next => rfl
  rw [decoratorSegments, segments, segmentsFrom_of_none hread, segmentsFrom_anywhere]
  rfl

theorem decoratorSegments_free {text : Text} (h : '@' ∉ text) :
    decoratorSegments text = text.map .plain := by
  induction text with
  | nil => rfl
  | cons c rest ih =>
      rw [List.mem_cons, not_or] at h
      rw [decoratorSegments_cons (Ne.symm h.1), ih h.2, List.map_cons]

/-! ## Arguments without decorators -/

/-- The characters of an argument without decorators. -/
def isSimple (c : Char) : Bool :=
  isWord c || c == '.' || c == ',' || c == ' '

theorem isSimple_of_isWord {c : Char} (h : isWord c = true) : isSimple c = true := by
  simp [isSimple, h]

theorem not_mem_of_simple {text : Text} (h : ∀ c ∈ text, isSimple c = true) {c : Char}
    (hc : isSimple c = false) : c ∉ text := by
  intro hmem
  rw [h c hmem] at hc
  cases hc

theorem IsNested.of_simple {text : Text} (h : ∀ c ∈ text, isSimple c = true) : IsNested text := by
  refine .of_free fun c hc => ?_
  have hne : ∀ d, isSimple d = false → c ≠ d :=
    fun d hd => ne_of_mem_of_not_mem hc (not_mem_of_simple h hd)
  simp [isOpening, isClosing, hne '(' (by decide), hne '[' (by decide), hne '\x7b' (by decide),
    hne ')' (by decide), hne ']' (by decide), hne '\x7d' (by decide)]

/-- A decorator with an argument. -/
def Decorator.filled (name : String) (argument : Text) : Decorator :=
  ⟨name.toList, some argument, true⟩

theorem Decorator.IsWritten.isNested {decorator : Decorator} (h : decorator.IsWritten) :
    IsNested decorator.text := by
  have hname : IsNested decorator.name :=
    .of_simple fun c hc => isSimple_of_isWord (h.name.isWord c hc)
  refine .cons (by decide) (by decide) (hname.append ?_)
  cases hsome : decorator.argument with
  | none => exact .nil
  | some argument => exact (h.argument argument hsome).bracketed (by decide) (by decide)

/-! ## Rows -/

/-- A row of places, each with a decorator or without, a space behind each, and a tail. -/
def rowText : List (Option Decorator) → Text → Text
  | [], tail => tail
  | mark :: marks, tail => mark.elim [] Decorator.text ++ ' ' :: rowText marks tail

/-- The decorators of a row are as they can be written, and the tail has none. -/
structure IsRow (marks : List (Option Decorator)) (tail : Text) : Prop where
  written : ∀ decorator, some decorator ∈ marks → decorator.IsWritten
  free : '@' ∉ tail
  starts : ∀ c ∈ tail.head?, isGap c = false ∧ c ≠ '('

section Row

variable {mark : Option Decorator} {marks : List (Option Decorator)} {tail : Text}

theorem reduceOption_map_some (decorators : List Decorator) :
    (decorators.map some).reduceOption = decorators := by
  simp [List.reduceOption, List.filterMap_map]

theorem rowText_eq_append (marks : List (Option Decorator)) (tail : Text) :
    rowText marks tail = rowText marks [] ++ tail := by
  induction marks with
  | nil => rfl
  | cons mark marks ih => rw [rowText, rowText, ih, List.append_assoc, List.cons_append]

/-- Some places of a row may be cleared. -/
theorem IsRow.filter (h : IsRow marks tail) (kept : Decorator → Bool) :
    IsRow (marks.map (·.filter kept)) tail where
  written := by
    intro decorator hmem
    obtain ⟨mark, hmark, heq⟩ := List.mem_map.mp hmem
    rw [Option.filter_eq_some_iff] at heq
    exact h.written decorator (heq.1 ▸ hmark)
  free := h.free
  starts := h.starts

theorem endsName_rowText (hstarts : ∀ c ∈ tail.head?, isGap c = false ∧ c ≠ '(') :
    EndsName (' ' :: rowText marks tail) := by
  refine ⟨by simp; decide, ?_⟩
  rw [List.dropWhile_cons_of_pos (by decide)]
  induction marks with
  | nil =>
      intro c hc
      rw [rowText] at hc
      cases tail with
      | nil => simp at hc
      | cons d rest =>
          have hd := hstarts d rfl
          rw [List.dropWhile_cons_of_neg (by simp [hd.1]), List.head?_cons,
            Option.mem_some_iff] at hc
          exact hc ▸ hd.2
  | cons mark marks ih =>
      cases mark with
      | none =>
          rw [rowText, Option.elim_none, List.nil_append, List.dropWhile_cons_of_pos (by decide)]
          exact ih
      | some decorator =>
          rw [rowText, Option.elim_some, Decorator.text, List.cons_append,
            List.dropWhile_cons_of_neg (by decide)]
          simp

/-- Decorators in front of a text are cut off. -/
theorem decoratorSegments_rowText_append
    (hwritten : ∀ decorator, some decorator ∈ marks → decorator.IsWritten)
    (hstarts : ∀ c ∈ tail.head?, isGap c = false ∧ c ≠ '(') :
    decoratorSegments (rowText marks tail)
      = marks.flatMap (fun mark =>
          (mark.map fun decorator => .hit decorator decorator.text).toList ++ [.plain ' '])
        ++ decoratorSegments tail := by
  induction marks with
  | nil => rfl
  | cons mark marks ih =>
      have hspace : decoratorSegments (' ' :: rowText marks tail)
          = .plain ' ' :: decoratorSegments (rowText marks tail) :=
        decoratorSegments_cons (by decide) _
      have hrest := ih fun decorator hmem => hwritten decorator (List.mem_cons_of_mem mark hmem)
      rw [rowText, List.flatMap_cons, List.append_assoc, ← hrest]
      cases mark with
      | none => exact hspace
      | some decorator =>
          rw [Option.elim_some, decoratorSegments_text (hwritten decorator List.mem_cons_self)
            (endsName_rowText hstarts), hspace]
          rfl

/-- A row is cut into its decorators. -/
theorem decoratorSegments_rowText (h : IsRow marks tail) :
    decoratorSegments (rowText marks tail)
      = marks.flatMap (fun mark =>
          (mark.map fun decorator => .hit decorator decorator.text).toList ++ [.plain ' '])
        ++ tail.map .plain := by
  rw [decoratorSegments_rowText_append h.written h.starts, decoratorSegments_free h.free]

theorem map_value_calls (text : Text) :
    (calls text).map (·.value) = (decoratorSegments text).filterMap Segment.value? :=
  map_value_hitsFrom 0 _

theorem map_value_calls_rowText_append
    (hwritten : ∀ decorator, some decorator ∈ marks → decorator.IsWritten)
    (hstarts : ∀ c ∈ tail.head?, isGap c = false ∧ c ≠ '(') :
    (calls (rowText marks tail)).map (·.value)
      = marks.reduceOption ++ (calls tail).map (·.value) := by
  rw [map_value_calls, map_value_calls, decoratorSegments_rowText_append hwritten hstarts,
    List.filterMap_append]
  congr 1
  clear hwritten
  induction marks with
  | nil => rfl
  | cons mark marks ih =>
      rw [List.flatMap_cons, List.filterMap_append, ih]
      cases mark <;> rfl

theorem map_value_calls_free (h : '@' ∉ tail) : (calls tail).map (·.value) = [] := by
  rw [map_value_calls, decoratorSegments_free h, filterMap_value?_plain]

theorem map_value_calls_text {decorator : Decorator} (h : decorator.IsWritten) :
    (calls decorator.text).map (·.value) = [decorator] := by
  have hsegments : decoratorSegments (decorator.text ++ [])
      = .hit decorator decorator.text :: decoratorSegments [] :=
    decoratorSegments_text h (by simp [EndsName])
  rw [List.append_nil] at hsegments
  rw [map_value_calls, hsegments]
  rfl

theorem map_value_calls_rowText (h : IsRow marks tail) :
    (calls (rowText marks tail)).map (·.value) = marks.reduceOption := by
  rw [map_value_calls_rowText_append h.written h.starts, map_value_calls_free h.free,
    List.append_nil]

theorem removeOnce_rowText (h : IsRow marks tail) (chosen : Text → Bool) :
    removeOnce chosen (rowText marks tail)
      = rowText (marks.map (·.filter fun decorator => !chosen decorator.name)) tail := by
  rw [removeOnce, decoratorSegments_rowText h, List.flatMap_append]
  clear h
  induction marks with
  | nil => simp [rowText, List.flatMap_map]
  | cons mark marks ih =>
      rw [List.flatMap_cons, List.flatMap_append, List.append_assoc, ih, List.map_cons, rowText]
      cases mark with
      | none => rfl
      | some decorator => cases hchosen : chosen decorator.name <;> simp [hchosen, Option.filter]

/-- Whether a row has a decorator of a chosen name. -/
theorem any_calls_rowText (h : IsRow marks tail) (p : Decorator → Bool) :
    (calls (rowText marks tail)).any (fun call => p call.value) = marks.reduceOption.any p := by
  rw [← map_value_calls_rowText h, List.any_map]
  rfl

/-- Taking decorators out of a row leaves the row of the others. -/
theorem removeDecorators_rowText (h : IsRow marks tail) (chosen : Text → Bool) :
    removeDecorators chosen (rowText marks tail)
      = rowText (marks.map (·.filter fun decorator => !chosen decorator.name)) tail := by
  have hstill : ∀ rounds {marks : List (Option Decorator)}, IsRow marks tail →
      marks.reduceOption.any (fun decorator => chosen decorator.name) = false →
      removeWithin chosen rounds (rowText marks tail) = rowText marks tail := by
    intro rounds marks hrow hnone
    cases rounds with
    | zero => rfl
    | succ rounds =>
        rw [removeWithin, any_calls_rowText hrow fun decorator => chosen decorator.name, hnone]
        rfl
  have hcleared : (marks.map (·.filter fun decorator => !chosen decorator.name)).reduceOption.any
      (fun decorator => chosen decorator.name) = false := by
    rw [List.any_eq_false]
    intro decorator hmem
    obtain ⟨mark, -, heq⟩ := List.mem_map.mp (List.reduceOption_mem_iff.mp hmem)
    simpa using (Option.filter_eq_some_iff.mp heq).2
  cases hany : marks.reduceOption.any (fun decorator => chosen decorator.name) with
  | false =>
      have hsame : marks.map (·.filter fun decorator => !chosen decorator.name) = marks := by
        rw [List.any_eq_false] at hany
        conv_rhs => rw [← List.map_id marks]
        refine List.map_congr_left fun mark hmark => ?_
        cases mark with
        | none => rfl
        | some decorator =>
            have hkept := hany decorator (List.reduceOption_mem_iff.mpr hmark)
            simp [Option.filter, hkept]
      rw [hsame]
      exact hstill _ h hany
  | true =>
      obtain ⟨rounds, hrounds⟩ : ∃ rounds, (rowText marks tail).length = rounds + 1 := by
        refine Nat.exists_eq_succ_of_ne_zero fun hzero => ?_
        cases marks with
        | nil => simp [List.reduceOption] at hany
        | cons mark marks => simp [rowText] at hzero
      rw [removeDecorators, hrounds, removeWithin,
        any_calls_rowText h fun decorator => chosen decorator.name, hany, if_pos rfl,
        removeOnce_rowText h]
      exact hstill rounds (h.filter _) hcleared

theorem IsNested.rowText (h : ∀ decorator, some decorator ∈ marks → decorator.IsWritten)
    (htail : IsNested tail) : IsNested (rowText marks tail) := by
  induction marks with
  | nil => exact htail
  | cons mark marks ih =>
      have hrest := ih fun decorator hmem => h decorator (List.mem_cons_of_mem mark hmem)
      refine .append ?_ (.cons (by decide) (by decide) hrest)
      cases mark with
      | none => exact .nil
      | some decorator => exact (h decorator List.mem_cons_self).isNested

theorem plainEntries_rowText (h : IsRow marks tail) (workgroup : Option Extent)
    (hplain : ∀ decorator, some decorator ∈ marks →
      decorator.name ≠ "compute".toList ∧ decorator.name ≠ "fragment".toList) :
    plainEntries workgroup (rowText marks tail) = rowText marks tail := by
  rw [plainEntries, decoratorSegments_rowText h, List.flatMap_append]
  clear h
  induction marks with
  | nil => simp [rowText, List.flatMap_map]
  | cons mark marks ih =>
      have hrest := ih fun decorator hmem => hplain decorator (List.mem_cons_of_mem mark hmem)
      rw [List.flatMap_cons, List.flatMap_append, List.append_assoc, hrest, rowText]
      cases mark with
      | none => rfl
      | some decorator =>
          obtain ⟨hcompute, hfragment⟩ := hplain decorator List.mem_cons_self
          have hsame : plainDecorator workgroup decorator decorator.text = decorator.text := by
            rw [plainDecorator, if_neg hcompute, if_neg hfragment, ite_self]
          simp [hsame]

end Row

/-! ## Even brackets -/

/-- The brackets of every pair occur in equal numbers. -/
def IsEven (text : Text) : Prop :=
  ∀ pair ∈ bracketPairs, text.count pair.1 = text.count pair.2

instance : DecidablePred IsEven := fun text =>
  inferInstanceAs (Decidable (∀ pair ∈ bracketPairs, text.count pair.1 = text.count pair.2))

namespace IsEven

theorem nil : IsEven [] := by
  decide

theorem append {left right : Text} (hleft : IsEven left) (hright : IsEven right) :
    IsEven (left ++ right) := by
  intro pair hpair
  rw [List.count_append, List.count_append, hleft pair hpair, hright pair hpair]

theorem cons {c : Char} {text : Text} (hc : IsEven [c]) (h : IsEven text) : IsEven (c :: text) :=
  append hc h

theorem of_simple {text : Text} (h : ∀ c ∈ text, isSimple c = true) : IsEven text := by
  have hbrackets : ∀ pair ∈ bracketPairs, isSimple pair.1 = false ∧ isSimple pair.2 = false := by
    decide
  intro pair hpair
  obtain ⟨hopening, hclosing⟩ := hbrackets pair hpair
  rw [List.count_eq_zero.mpr (not_mem_of_simple h hopening),
    List.count_eq_zero.mpr (not_mem_of_simple h hclosing)]

/-- The text in brackets. -/
theorem bracketed {text : Text} (h : IsEven text) : IsEven ('(' :: (text ++ [')'])) := by
  intro pair hpair
  have houter : IsEven ['(', ')'] := by decide
  have hpairs := houter pair hpair
  rw [← List.singleton_append, List.count_append, List.count_append, List.count_append,
    List.count_append, h pair hpair]
  rw [← List.singleton_append, List.count_append, List.count_append] at hpairs
  omega

theorem bracketIssues_eq_nil {text : Text} (h : IsEven text) : bracketIssues text = [] := by
  rw [bracketIssues, List.filterMap_eq_nil_iff]
  rintro ⟨opening, closing⟩ hpair
  dsimp only
  rw [if_pos (h _ hpair)]

/-- A written decorator is as even as its argument. -/
theorem text {decorator : Decorator} (h : decorator.IsWritten)
    (hargument : ∀ argument ∈ decorator.argument, IsEven argument) : IsEven decorator.text := by
  have hname : IsEven decorator.name :=
    of_simple fun c hc => isSimple_of_isWord (h.name.isWord c hc)
  refine cons (by decide) (append hname ?_)
  cases hsome : decorator.argument with
  | none => exact nil
  | some argument => exact bracketed (hargument argument hsome)

theorem rowText {marks : List (Option Decorator)} {tail : Text}
    (h : ∀ decorator, some decorator ∈ marks → IsEven decorator.text) (htail : IsEven tail) :
    IsEven (rowText marks tail) := by
  induction marks with
  | nil => exact htail
  | cons mark marks ih =>
      have hrest := ih fun decorator hmem => h decorator (List.mem_cons_of_mem mark hmem)
      refine append ?_ (cons (by decide) hrest)
      cases mark with
      | none => exact nil
      | some decorator => exact h decorator List.mem_cons_self

end IsEven

/-! ## Decorators that hold others -/

/-- A decorator whose argument holds no other. -/
structure Decorator.IsLeaf (decorator : Decorator) : Prop where
  name : Reader.IsIdentifier decorator.name
  simple : ∀ argument ∈ decorator.argument, ∀ c ∈ argument, isSimple c = true
  balanced : decorator.balanced = true

namespace Decorator.IsLeaf

variable {decorator : Decorator}

theorem filled {name : String} {argument : Text} (hname : Reader.IsIdentifier name.toList)
    (h : ∀ c ∈ argument, isSimple c = true) : (Decorator.filled name argument).IsLeaf where
  name := hname
  simple := by
    rintro _ ⟨⟩
    exact h
  balanced := rfl

theorem isWritten (h : decorator.IsLeaf) : decorator.IsWritten where
  name := h.name
  argument := fun argument hmem => .of_simple (h.simple argument hmem)
  balanced := h.balanced

theorem isEven (h : decorator.IsLeaf) : IsEven decorator.text :=
  .text h.isWritten fun argument hmem => .of_simple (h.simple argument hmem)

theorem free (h : decorator.IsLeaf) : ∀ argument ∈ decorator.argument, '@' ∉ argument :=
  fun argument hmem => not_mem_of_simple (h.simple argument hmem) (by decide)

end Decorator.IsLeaf

/-- A decorator and those that stand in its argument, none of which holds another. -/
inductive Decorator.Holds : Decorator → List Decorator → Prop
  | leaf {decorator : Decorator} (h : decorator.IsLeaf) : Holds decorator []
  | nest {name : Text} {front : List Decorator} {last : Decorator}
      (hname : Reader.IsIdentifier name) (h : ∀ decorator ∈ front ++ [last], decorator.IsLeaf) :
      Holds ⟨name, some (rowText (front.map some) last.text), true⟩ (front ++ [last])

namespace Decorator.Holds

variable {decorator : Decorator} {inner : List Decorator}

theorem isWritten (h : decorator.Holds inner) : decorator.IsWritten := by
  cases h with
  | leaf h => exact h.isWritten
  | @nest name front last hname h =>
      refine ⟨hname, ?_, rfl⟩
      rintro _ ⟨⟩
      refine .rowText (fun decorator hmem => (h decorator ?_).isWritten)
        (h last (by simp)).isWritten.isNested
      simpa using Or.inl hmem

theorem isEven (h : decorator.Holds inner) : IsEven decorator.text := by
  refine .text h.isWritten ?_
  cases h with
  | leaf h => exact fun argument hmem => .of_simple (h.simple argument hmem)
  | @nest name front last hname h =>
      rintro _ ⟨⟩
      refine .rowText (fun decorator hmem => (h decorator ?_).isEven) (h last (by simp)).isEven
      simpa using Or.inl hmem

theorem map_value_calls (h : decorator.Holds inner) :
    (decorator.argument.elim [] fun argument => (calls argument).map (·.value)) = inner := by
  cases h with
  | leaf h =>
      cases hargument : decorator.argument with
      | none => rfl
      | some argument => exact map_value_calls_free (h.free argument hargument)
  | @nest name front last hname h =>
      have hlast := (h last (by simp)).isWritten
      rw [Option.elim_some, map_value_calls_rowText_append, map_value_calls_text hlast,
        reduceOption_map_some]
      · intro decorator hmem
        exact (h decorator (by simpa using Or.inl hmem)).isWritten
      · rintro c ⟨⟩
        decide

theorem map_value_children (h : decorator.Holds inner) :
    decorator.children.map (·.value) = inner := by
  rw [← h.map_value_calls, Decorator.children]
  cases decorator.argument <;> rfl

theorem free_of_mem (h : decorator.Holds inner) {other : Decorator} (hmem : other ∈ inner) :
    ∀ argument ∈ other.argument, '@' ∉ argument := by
  cases h with
  | leaf h => cases hmem
  | nest hname h => exact (h other hmem).free

end Decorator.Holds

/-! ## All depths -/

/-- What is found down to a depth: the calls, and what is found in their arguments. -/
theorem map_value_walkWithin (depth : Nat) (text : Text) :
    (walkWithin (depth + 1) text).map (·.value)
      = ((calls text).map (·.value)).flatMap fun decorator =>
          decorator :: decorator.argument.elim [] fun argument =>
            (walkWithin depth argument).map (·.value) := by
  rw [walkWithin, List.map_flatMap, List.flatMap_map]
  congr 1
  funext call
  cases call.value.argument <;> rfl

theorem walkWithin_free {text : Text} (h : '@' ∉ text) (depth : Nat) :
    walkWithin depth text = [] := by
  cases depth with
  | zero => rfl
  | succ depth => rw [walkWithin, List.map_eq_nil_iff.mp (map_value_calls_free h), List.flatMap_nil]

/-- Decorators that hold no others are all that is found. -/
theorem flatMap_walkWithin_free {decorators : List Decorator}
    (h : ∀ decorator ∈ decorators, ∀ argument ∈ decorator.argument, '@' ∉ argument) (depth : Nat) :
    (decorators.flatMap fun decorator => decorator :: decorator.argument.elim [] fun argument =>
      (walkWithin depth argument).map (·.value)) = decorators := by
  have hleaf : ∀ decorator ∈ decorators, (decorator :: decorator.argument.elim [] fun argument =>
      (walkWithin depth argument).map (·.value)) = [decorator] := by
    intro decorator hmem
    cases hargument : decorator.argument with
    | none => rfl
    | some argument =>
        rw [Option.elim_some, walkWithin_free (h decorator hmem argument hargument)]
        rfl
  rw [List.flatMap_congr hleaf]
  exact List.flatMap_singleton' decorators

/-- What is found in the argument of a decorator. -/
theorem Decorator.Holds.map_value_walkWithin {decorator : Decorator} {inner : List Decorator}
    (h : decorator.Holds inner) (depth : Nat) :
    (decorator.argument.elim [] fun argument => (walkWithin (depth + 1) argument).map (·.value))
      = inner := by
  have hfree := flatMap_walkWithin_free (fun other hmem => h.free_of_mem hmem) depth
  have hcalls := h.map_value_calls
  cases hargument : decorator.argument with
  | none => simpa [hargument] using hcalls
  | some argument =>
      rw [hargument, Option.elim_some] at hcalls
      rw [Option.elim_some, ShaderMarkup.map_value_walkWithin, hcalls, hfree]

/-- The first decorator of a name. -/
def firstNamed? (found : List Decorator) (name : Text) : Option Decorator :=
  found.find? fun decorator => decorator.name = name

theorem map_value_findDecorator? {text : Text} {found : List Decorator}
    (hwalk : (walk text).map (·.value) = found) (name : Text) :
    (findDecorator? text name).map (·.value) = firstNamed? found name := by
  rw [findDecorator?, firstNamed?, ← hwalk, List.find?_map]
  rfl

end ShaderMarkup
