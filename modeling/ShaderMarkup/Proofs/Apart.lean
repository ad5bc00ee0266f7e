import ShaderMarkup.Proofs.Row

/-!
# Decorators that stand apart

Emission takes some decorators out of a text and shortens others, and what stands on the two sides
then meets.  Where the text behind a decorator neither goes on with a word nor, after white space,
opens a bracket, nothing new arises there (`IsDetached`).

`StandApart loose after pieces` says this of a list of segments.  The names in `loose` are those
whose decorators may go or lose their argument; a decorator without an argument always has to be
detached, and the others need not be.  `after` is the text behind the segments.

* Segments that stand apart are the segments of their text (`decoratorSegments_join`).
* The segments of a text stand apart if its loose decorators are detached
  (`standApart_decoratorSegments`).
* They still do when each decorator is replaced by segments that fit in its place
  (`StandApart.rewrite`).  So taking decorators out leaves exactly the others
  (`removeDecorators_join`).
-/

namespace ShaderMarkup

/-! ## Depth -/

/-- The depth behind a text, unless one of its brackets closes depth one. -/
def depthBehind : Int → Text → Option Int
  | depth, [] => some depth
  | depth, c :: rest =>
      if isOpening c then depthBehind (depth + 1) rest
      else if isClosing c then if depth = 1 then none else depthBehind (depth - 1) rest
      else depthBehind depth rest

theorem depthBehind_append (depth : Int) (a b : Text) :
    depthBehind depth (a ++ b)
      = (depthBehind depth a).bind fun reached => depthBehind reached b := by
  induction a generalizing depth with
  | nil => rfl
  | cons c a ih =>
      rw [List.cons_append, depthBehind, depthBehind]
      split
      · exact ih _
      · split
        · split
          · rfl
          · exact ih _
        · exact ih _

theorem depthBehind_free {a : Text} (h : ∀ c ∈ a, isOpening c = false ∧ isClosing c = false)
    (depth : Int) : depthBehind depth a = some depth := by
  induction a with
  | nil => rfl
  | cons c a ih =>
      rw [List.forall_mem_cons] at h
      rw [depthBehind, if_neg (by simp [h.1.1]), if_neg (by simp [h.1.2])]
      exact ih h.2

theorem one_le_depthBehind {a : Text} {depth reached : Int}
    (h : depthBehind depth a = some reached) (hdepth : 1 ≤ depth) : 1 ≤ reached := by
  induction a generalizing depth with
  | nil =>
      cases h
      exact hdepth
  | cons c a ih =>
      rw [depthBehind] at h
      split at h
      · exact ih h (by omega)
      · split at h
        · split at h
          · cases h
          · exact ih h (by omega)
        · exact ih h hdepth

/-- Behind a text that keeps the depth open the search for its end goes on. -/
theorem closingFrom_of_depthBehind {a : Text} {depth reached : Int}
    (h : depthBehind depth a = some reached) (more : Text) :
    closingFrom isOpening isClosing depth (a ++ more)
      = (closingFrom isOpening isClosing reached more).map (· + a.length) := by
  induction a generalizing depth with
  | nil =>
      cases h
      simp
  | cons c a ih =>
      have hstep (start : Int) (h : depthBehind start a = some reached) :
          (closingFrom isOpening isClosing start (a ++ more)).map (· + 1)
            = (closingFrom isOpening isClosing reached more).map (· + (c :: a).length) := by
        rw [ih h, Option.map_map]
        rfl
      rw [depthBehind] at h
      rw [List.cons_append, closingFrom]
      split
      next hopening =>
        rw [if_pos hopening] at h
        exact hstep _ h
      next hopening =>
        rw [if_neg hopening] at h
        split
        next hclosing =>
          rw [if_pos hclosing] at h
          split
          next hone =>
            rw [if_pos hone] at h
            cases h
          next hone =>
            rw [if_neg hone] at h
            exact hstep _ h
        next hclosing =>
          rw [if_neg hclosing] at h
          exact hstep _ h

/-- In front of the bracket that closes a depth the text comes back to depth one. -/
theorem exists_of_closingFrom {text : Text} {depth : Int} {width : Nat}
    (h : closingFrom isOpening isClosing depth text = some width) :
    ∃ inside close rest, text = inside ++ close :: rest ∧ inside.length = width ∧
      isClosing close = true ∧ depthBehind depth inside = some 1 := by
  induction text generalizing depth width with
  | nil => cases h
  | cons c text ih =>
      have hstep {start : Int} {found : Option Nat}
          (hfound : closingFrom isOpening isClosing start text = found)
          (hwidth : found.map (· + 1) = some width)
          (hdepth : ∀ inside, depthBehind start inside = some 1 →
            depthBehind depth (c :: inside) = some 1) :
          ∃ inside close rest, c :: text = inside ++ close :: rest ∧ inside.length = width ∧
            isClosing close = true ∧ depthBehind depth inside = some 1 := by
        obtain ⟨shorter, rfl, rfl⟩ := Option.map_eq_some_iff.mp hwidth
        obtain ⟨inside, close, rest, rfl, rfl, hclose, hinside⟩ := ih hfound
        exact ⟨c :: inside, close, rest, rfl, rfl, hclose, hdepth inside hinside⟩
      rw [closingFrom] at h
      split at h
      next hopening =>
        exact hstep rfl h fun inside hinside => by rwa [depthBehind, if_pos hopening]
      next hopening =>
        split at h
        next hclosing =>
          split at h
          next hone =>
            cases h
            exact ⟨[], c, text, rfl, rfl, hclosing, by rw [hone]; rfl⟩
          next hone =>
            exact hstep rfl h fun inside hinside => by
              rwa [depthBehind, if_neg hopening, if_pos hclosing, if_neg hone]
        next hclosing =>
          exact hstep rfl h fun inside hinside => by
            rwa [depthBehind, if_neg hopening, if_neg hclosing]

/-! ## Spelling -/

/-- The texts that spell a decorator whose bracket closes.  A gap may stand in front of the bracket,
and the bracket that closes it may have any shape. -/
inductive Decorator.Spelled : Decorator → Text → Prop
  | bare {name : Text} (hname : Reader.IsIdentifier name) :
      Spelled ⟨name, none, true⟩ ('@' :: name)
  | filled {name gap argument : Text} {close : Char} (hname : Reader.IsIdentifier name)
      (hgap : ∀ c ∈ gap, isGap c = true) (hargument : depthBehind 1 argument = some 1)
      (hclose : isClosing close = true) :
      Spelled ⟨name, some argument, true⟩
        ('@' :: (name ++ (gap ++ '(' :: (argument ++ [close]))))

theorem isWord_eq_false_of_isClosing {c : Char} (h : isClosing c = true) : isWord c = false := by
  simp only [isClosing, Bool.or_eq_true, beq_iff_eq] at h
  rcases h with (rfl | rfl) | rfl <;> decide

/-- No word goes on with a gap and a bracket. -/
theorem head?_gap_bracket {gap : Text} (hgap : ∀ c ∈ gap, isGap c = true) (body : Text) :
    ∀ c ∈ (gap ++ '(' :: body).head?, isWord c = false := by
  intro c hc
  cases gap with
  | nil =>
      cases hc
      decide
  | cons d gap =>
      cases hc
      exact isWord_eq_false_of_isBlank (isBlank_of_isGap (hgap c List.mem_cons_self))

namespace Decorator.Spelled

variable {decorator : Decorator} {written rest : Text}

theorem exists_eq_cons (h : decorator.Spelled written) : ∃ tail, written = '@' :: tail := by
  cases h with
  | bare => exact ⟨_, rfl⟩
  | filled => exact ⟨_, rfl⟩

/-- A decorator ends with its name or a bracket. -/
theorem getLast?_ne_semicolon (h : decorator.Spelled written) : written.getLast? ≠ some ';' := by
  cases h with
  | @bare name hname =>
      intro hlast
      have hmem := List.mem_of_getLast? hlast
      rcases List.mem_cons.mp hmem with heq | hmem
      · cases heq
      · exact absurd (hname.isWord ';' hmem) (by decide)
  | @filled name gap argument close hname hgap hargument hclose =>
      intro hlast
      have hwhole : '@' :: (name ++ (gap ++ '(' :: (argument ++ [close])))
          = ('@' :: (name ++ (gap ++ '(' :: argument))) ++ [close] := by simp
      rw [hwhole, List.getLast?_concat] at hlast
      cases hlast
      cases hclose

/-- What is spelled is read back. -/
theorem read (h : decorator.Spelled written) (hrest : decorator.argument = none → EndsName rest) :
    Decorator.read (written ++ rest) = some (decorator, rest) := by
  cases h with
  | @bare name hname =>
      have hends : EndsName rest := hrest rfl
      have hidentifier : Reader.identifier (name ++ rest) = some (name, rest) :=
        Reader.identifier_eq_some_iff.mpr ⟨hname, rfl, hends.1⟩
      have hnothing : readArgument name rest = (⟨name, none, true⟩, rest) := by
        rw [readArgument]
        split
        next body heq => exact absurd rfl (hends.2 '(' (by simp [heq]))
        next => rfl
      simp only [List.cons_append, Decorator.read, hidentifier, hnothing]
  | @filled name gap argument close hname hgap hargument hclose =>
      have hidentifier : Reader.identifier (name ++ (gap ++ '(' :: (argument ++ close :: rest)))
          = some (name, gap ++ '(' :: (argument ++ close :: rest)) :=
        Reader.identifier_eq_some_iff.mpr ⟨hname, rfl, head?_gap_bracket hgap _⟩
      have hend : closingBracket? ('(' :: (argument ++ close :: rest))
          = some (argument.length + 1) := by
        have hopens : isOpening close = false := by
          simp only [isClosing, Bool.or_eq_true, beq_iff_eq] at hclose
          rcases hclose with (rfl | rfl) | rfl <;> decide
        have hfound : closingFrom isOpening isClosing 1 (close :: rest) = some 0 := by
          rw [closingFrom, if_neg (by simp [hopens]), if_pos hclose, if_pos rfl]
        rw [closingBracket?, closingFrom, if_pos (by decide), Int.zero_add,
          closingFrom_of_depthBehind hargument, hfound, Option.map_some, Option.map_some,
          Nat.zero_add]
      have hread : readArgument name (gap ++ '(' :: (argument ++ close :: rest))
          = (⟨name, some argument, true⟩, rest) := by
        rw [readArgument, List.dropWhile_append_of_pos hgap,
          List.dropWhile_cons_of_neg (by decide)]
        simp only [hend]
        congr 1
        · simp
        · rw [← List.singleton_append, ← List.append_assoc,
            List.drop_left' (by rw [List.length_append]; rfl)]
      simp only [List.append_assoc, List.cons_append, List.nil_append, Decorator.read, hidentifier,
        hread]

end Decorator.Spelled

/-- What is read is spelled, where the bracket closes. -/
theorem Decorator.spelled_of_read {text rest : Text} {decorator : Decorator}
    (h : Decorator.read text = some (decorator, rest)) (hbalanced : decorator.balanced = true) :
    ∃ written, text = written ++ rest ∧ decorator.Spelled written := by
  obtain ⟨name, behind, rfl, hname, -, ⟨-, rfl, rfl⟩ | ⟨gap, body, rfl, hgap, hbody⟩⟩ :=
    Decorator.read_cases h
  · exact ⟨'@' :: name, rfl, .bare hname⟩
  · rcases hbody with ⟨width, hwidth, rfl, rfl⟩ | ⟨-, rfl, -⟩
    · rw [closingBracket?, closingFrom, if_pos (by decide)] at hwidth
      obtain ⟨inner, hinner, rfl⟩ := Option.map_eq_some_iff.mp hwidth
      obtain ⟨inside, close, rest, rfl, rfl, hclose, hinside⟩ := exists_of_closingFrom hinner
      refine ⟨'@' :: (name ++ (gap ++ '(' :: (inside ++ [close]))), by simp, ?_⟩
      simp only [Nat.add_sub_cancel, List.take_left]
      exact .filled hname hgap hinside hclose
    · cases hbalanced

/-! ## Detached texts -/

/-- A text that nothing in front of it can join with: no word goes on, and no bracket follows the
white space. -/
def IsDetached (text : Text) : Prop :=
  (∀ c ∈ text.head?, isWord c = false) ∧ ∀ c ∈ (text.dropWhile isBlank).head?, c ≠ '('

instance (text : Text) : Decidable (IsDetached text) :=
  inferInstanceAs (Decidable (_ ∧ _))

namespace IsDetached

theorem left {a b : Text} (h : IsDetached (a ++ b)) : IsDetached a := by
  refine ⟨fun c hc => h.1 c ?_, fun c hc => h.2 c ?_⟩
  · rw [List.head?_append, Option.mem_def.mp hc]
    rfl
  · rw [List.dropWhile_append]
    split
    next hempty =>
      rw [List.isEmpty_iff.mp hempty] at hc
      cases hc
    next =>
      rw [List.head?_append, Option.mem_def.mp hc]
      rfl

/-- White space and a character that opens no bracket. -/
theorem of_blank_cons {gap : Text} {c : Char} (hgap : ∀ d ∈ gap, isBlank d = true)
    (hword : gap = [] → isWord c = false) (hblank : isBlank c = false) (hc : c ≠ '(')
    (rest : Text) : IsDetached (gap ++ c :: rest) := by
  refine ⟨fun d hd => ?_, ?_⟩
  · cases gap with
    | nil =>
        cases hd
        exact hword rfl
    | cons e gap =>
        cases hd
        exact isWord_eq_false_of_isBlank (hgap d List.mem_cons_self)
  · rw [List.dropWhile_append_of_pos hgap, List.dropWhile_cons_of_neg (by simp [hblank])]
    simpa using hc

theorem of_space_cons {c : Char} (hblank : isBlank c = false) (hc : c ≠ '(') (rest : Text) :
    IsDetached (' ' :: c :: rest) :=
  @of_blank_cons [' '] c (by decide) (by simp) hblank hc rest

/-- Whether a text is detached shows in its first characters, up to the first that is no white
space. -/
theorem append {a b : Text} (h : IsDetached a) (hb : (∀ c ∈ a, isBlank c = true) → IsDetached b) :
    IsDetached (a ++ b) := by
  refine ⟨fun c hc => ?_, fun c hc => ?_⟩
  · cases a with
    | nil => exact (hb (by simp)).1 c hc
    | cons d a => exact h.1 c hc
  · rw [List.dropWhile_append] at hc
    split at hc
    next hempty =>
      exact (hb (List.dropWhile_eq_nil_iff.mp (List.isEmpty_iff.mp hempty))).2 c hc
    next hsolid =>
      rw [List.head?_append_of_ne_nil _ (by simpa using hsolid)] at hc
      exact h.2 c hc

/-- A mark may stand behind a detached text. -/
theorem append_mark {a : Text} (h : IsDetached a) (rest : Text) : IsDetached (a ++ '@' :: rest) :=
  h.append fun _ => @of_blank_cons [] '@' (by simp) (by decide) (by decide) (by decide) rest

/-- Anything may stand behind a detached text that ends with a semicolon. -/
theorem append_of_semicolon {a : Text} (h : IsDetached a) (hlast : a.getLast? = some ';')
    (rest : Text) : IsDetached (a ++ rest) := by
  refine h.append fun hblank => ?_
  have hsemicolon := hblank ';' (List.mem_of_getLast? hlast)
  cases hsemicolon

theorem endsName {text : Text} (h : IsDetached text) : EndsName text := by
  refine ⟨h.1, fun c hc => ?_⟩
  rintro rfl
  -- The gap is white space, so the bracket stands behind all white space.
  have hgap := List.takeWhile_append_dropWhile (p := isGap) (l := text)
  obtain ⟨rest, hrest⟩ : ∃ rest, text.dropWhile isGap = '(' :: rest := by
    cases hdrop : text.dropWhile isGap with
    | nil => simp [hdrop] at hc
    | cons d rest =>
        rw [hdrop] at hc
        cases hc
        exact ⟨rest, rfl⟩
  rw [hrest] at hgap
  refine h.2 '(' ?_ rfl
  rw [← hgap, List.dropWhile_append_of_pos fun d hd =>
    isBlank_of_isGap (List.mem_takeWhile_imp hd), List.dropWhile_cons_of_neg (by decide)]
  rfl

end IsDetached

/-! ## Segments that stand apart -/

/-- The text of segments. -/
def Segment.join {α : Type} (pieces : List (Segment α)) : Text :=
  pieces.flatMap Segment.text

open Segment (join)

section Join

variable {α : Type}

@[simp] theorem join_nil : join ([] : List (Segment α)) = [] := rfl

@[simp] theorem join_plain (c : Char) (pieces : List (Segment α)) :
    join (.plain c :: pieces) = c :: join pieces := rfl

@[simp] theorem join_hit (value : α) (written : Text) (pieces : List (Segment α)) :
    join (.hit value written :: pieces) = written ++ join pieces := rfl

@[simp] theorem join_append (front back : List (Segment α)) :
    join (front ++ back) = join front ++ join back :=
  List.flatMap_append

@[simp] theorem join_map_plain (text : Text) :
    join (text.map (.plain : Char → Segment α)) = text := by
  induction text with
  | nil => rfl
  | cons c text ih => rw [List.map_cons, join_plain, ih]

end Join

/-- The decorators among segments are spelled out, and those without an argument or of a loose name
are detached from what follows.  `after` stands behind the segments. -/
def StandApart (loose : Text → Bool) (after : Text) : List (Segment Decorator) → Prop
  | [] => True
  | .plain c :: rest =>
      (c = '@' → ∀ d ∈ (join rest).head?, isNameStart d = false) ∧ StandApart loose after rest
  | .hit decorator written :: rest =>
      decorator.Spelled written ∧
        (decorator.argument = none ∨ loose decorator.name = true →
          IsDetached (join rest ++ after)) ∧
        StandApart loose after rest

section StandApart

variable {loose loose' : Text → Bool} {after : Text} {pieces : List (Segment Decorator)}

theorem StandApart.mono (hloose : ∀ name, loose' name = true → loose name = true)
    (h : StandApart loose after pieces) : StandApart loose' after pieces := by
  induction pieces with
  | nil => trivial
  | cons piece rest ih =>
      cases piece with
      | plain c => exact ⟨h.1, ih h.2⟩
      | hit decorator written =>
          exact ⟨h.1, fun hneeds => h.2.1 (hneeds.imp_right (hloose decorator.name)), ih h.2.2⟩

/-- Characters that are no mark stand apart from anything. -/
theorem standApart_map_plain_append {text : Text} (htext : '@' ∉ text)
    (h : StandApart loose after pieces) : StandApart loose after (text.map .plain ++ pieces) := by
  induction text with
  | nil => exact h
  | cons c text ih =>
      rw [List.mem_cons, not_or] at htext
      exact ⟨fun hc => absurd hc.symm htext.1, ih htext.2⟩

theorem StandApart.right {front back : List (Segment Decorator)}
    (h : StandApart loose after (front ++ back)) : StandApart loose after back := by
  induction front with
  | nil => exact h
  | cons piece front ih =>
      cases piece with
      | plain c => exact ih h.2
      | hit decorator written => exact ih h.2.2

theorem StandApart.left {front back : List (Segment Decorator)}
    (h : StandApart loose after (front ++ back)) : StandApart loose (join back ++ after) front := by
  induction front with
  | nil => trivial
  | cons piece front ih =>
      rw [List.cons_append] at h
      cases piece with
      | plain c =>
          refine ⟨fun hc d hd => h.1 hc d ?_, ih h.2⟩
          rw [join_append, List.head?_append, Option.mem_def.mp hd]
          rfl
      | hit decorator written =>
          refine ⟨h.1, fun hneeds => ?_, ih h.2.2⟩
          have hdetached := h.2.1 hneeds
          rwa [join_append, List.append_assoc] at hdetached

/-- Two lists in a row, where no mark at the end of the first meets a name. -/
theorem StandApart.append {front back : List (Segment Decorator)}
    (hfront : StandApart loose (join back ++ after) front) (hback : StandApart loose after back)
    (hmark : (join front).getLast? = some '@' → ∀ d ∈ (join back).head?, isNameStart d = false) :
    StandApart loose after (front ++ back) := by
  induction front with
  | nil => exact hback
  | cons piece front ih =>
      rw [List.cons_append]
      cases piece with
      | plain c =>
          rw [join_plain] at hmark
          refine ⟨fun hc d hd => ?_, ih hfront.2 fun hlast => hmark ?_⟩
          · rw [join_append] at hd
            cases hempty : join front with
            | nil =>
                rw [hempty] at hd hmark
                exact hmark (by rw [hc]; rfl) d hd
            | cons e text =>
                refine hfront.1 hc d ?_
                rw [hempty] at hd ⊢
                exact hd
          · rw [List.getLast?_cons, hlast]
            rfl
      | hit decorator written =>
          refine ⟨hfront.1, fun hneeds => ?_, ih hfront.2.2 fun hlast => hmark ?_⟩
          · rw [join_append, List.append_assoc]
            exact hfront.2.1 hneeds
          · rw [join_hit, List.getLast?_append, hlast]
            rfl

theorem read_mark_eq_none {rest : Text} (h : ∀ d ∈ rest.head?, isNameStart d = false) :
    Decorator.read ('@' :: rest) = none := by
  unfold Decorator.read
  split
  next tail heq =>
    cases heq
    split
    next name afterName hname =>
      obtain ⟨⟨c, others, rfl, hc, _⟩, rfl, _⟩ := Reader.identifier_eq_some_iff.mp hname
      rw [h c rfl] at hc
      cases hc
    next => rfl
  next => rfl

/-- Segments that stand apart are those of their text. -/
theorem decoratorSegments_join (h : StandApart loose after pieces) :
    decoratorSegments (join pieces) = pieces := by
  induction pieces with
  | nil => rfl
  | cons piece rest ih =>
      cases piece with
      | plain c =>
          rw [join_plain]
          by_cases hc : c = '@'
          · subst hc
            have hread : anywhere Decorator.read none ('@' :: join rest) = none :=
              read_mark_eq_none (h.1 rfl)
            rw [decoratorSegments, segments, segmentsFrom_of_none hread, segmentsFrom_anywhere]
            exact congrArg _ (ih h.2)
          · rw [decoratorSegments_cons hc, ih h.2]
      | hit decorator written =>
          obtain ⟨hspelled, hdetached, hrest⟩ := h
          have hread : anywhere Decorator.read none (written ++ join rest)
              = some (decorator, join rest) :=
            hspelled.read fun hnone => (hdetached (Or.inl hnone)).left.endsName
          have hne : written ≠ [] := by
            obtain ⟨tail, rfl⟩ := hspelled.exists_eq_cons
            exact List.cons_ne_nil _ _
          rw [join_hit, decoratorSegments, segments, segmentsFrom_of_some hne hread,
            segmentsFrom_anywhere]
          exact congrArg _ (ih hrest)

/-- A semicolon at the end belongs to no decorator. -/
theorem StandApart.semicolon_cons {piece : Segment Decorator} {rest : List (Segment Decorator)}
    (h : StandApart loose after (piece :: rest))
    (hlast : (join (piece :: rest)).getLast? = some ';') :
    piece = .plain ';' ∧ rest = [] ∨ (join rest).getLast? = some ';' := by
  cases piece with
  | plain c =>
      rw [join_plain, List.getLast?_cons] at hlast
      cases hend : (join rest).getLast? with
      | none =>
          rw [hend] at hlast
          cases hlast
          have hsegments := decoratorSegments_join h.2
          rw [List.getLast?_eq_none_iff.mp hend] at hsegments
          exact Or.inl ⟨rfl, hsegments.symm⟩
      | some d =>
          rw [hend] at hlast
          exact Or.inr hlast
  | hit decorator written =>
      rw [join_hit, List.getLast?_append] at hlast
      cases hend : (join rest).getLast? with
      | none =>
          rw [hend] at hlast
          exact absurd hlast h.1.getLast?_ne_semicolon
      | some d =>
          rw [hend] at hlast
          exact Or.inr hlast

/-- Behind a semicolon anything may stand. -/
theorem StandApart.of_semicolon (h : StandApart loose after pieces)
    (hlast : (join pieces).getLast? = some ';') (other : Text) : StandApart loose other pieces := by
  induction pieces with
  | nil => trivial
  | cons piece rest ih =>
      rcases h.semicolon_cons hlast with ⟨rfl, rfl⟩ | hend
      · exact ⟨by simp, trivial⟩
      · cases piece with
        | plain c => exact ⟨h.1, ih h.2 hend⟩
        | hit decorator written =>
            exact ⟨h.1, fun hneeds => (h.2.1 hneeds).left.append_of_semicolon hend other,
              ih h.2.2 hend⟩

end StandApart

/-! ## Detached decorators of a text -/

/-- The decorators of a text that have no argument or a loose name are detached from what follows.
`after` stands behind the text. -/
def LooseApart (loose : Text → Bool) (after text : Text) : Prop :=
  ∀ call ∈ calls text, call.value.argument = none ∨ loose call.value.name = true →
    IsDetached (text.drop call.stop ++ after)

instance (loose : Text → Bool) (after text : Text) : Decidable (LooseApart loose after text) :=
  inferInstanceAs (Decidable (∀ call ∈ calls text, _))

/-- Every bracket of a decorator closes. -/
def IsClosed (text : Text) : Prop :=
  ∀ call ∈ calls text, call.value.balanced = true

instance (text : Text) : Decidable (IsClosed text) :=
  inferInstanceAs (Decidable (∀ call ∈ calls text, _))

section Text

variable {loose : Text → Bool} {after text : Text}

theorem standApart_of_segmented {before : Option Char} {pieces : List (Segment Decorator)}
    (h : Segmented (anywhere Decorator.read) before text pieces) (left : Text)
    (hcalls : ∀ call ∈ hitsFrom left.length pieces, call.value.balanced = true ∧
      (call.value.argument = none ∨ loose call.value.name = true →
        IsDetached ((left ++ text).drop call.stop ++ after))) :
    StandApart loose after pieces := by
  induction h generalizing left with
  | nil => trivial
  | @plain before c rest pieces hread hrest ih =>
      refine ⟨?_, ih (left ++ [c]) ?_⟩
      · rintro rfl d hd
        rw [join, hrest.flatMap_text] at hd
        by_contra hstart
        obtain ⟨others, rfl⟩ : ∃ others, rest = d :: others := by
          cases rest with
          | nil => cases hd
          | cons e others =>
              cases hd
              exact ⟨others, rfl⟩
        -- A name starts behind the mark, so a decorator would have been read.
        obtain ⟨name, afterName, hname⟩ : ∃ name afterName,
            Reader.identifier (d :: others) = some (name, afterName) := by
          rw [Bool.not_eq_false] at hstart
          refine ⟨d :: others.takeWhile isWord, others.dropWhile isWord,
            Reader.identifier_eq_some_iff.mpr ⟨⟨d, _, rfl, hstart, ?_⟩, ?_, ?_⟩⟩
          · exact fun e he => List.mem_takeWhile_imp he
          · rw [List.cons_append, List.takeWhile_append_dropWhile]
          · intro e he
            have hne : others.dropWhile isWord ≠ [] := by
              rintro hnil
              rw [hnil] at he
              cases he
            rw [List.head?_eq_some_head hne] at he
            cases he
            exact List.head_dropWhile_not isWord hne
        have hsome : Decorator.read ('@' :: d :: others)
            = some (Decorator.readArgument name afterName) := by
          simp only [Decorator.read, hname]
        rw [anywhere, hsome] at hread
        cases hread
      · simpa [hitsFrom] using hcalls
  | @hit before decorator written rest pieces hne hread hrest ih =>
      have hcall := hcalls ⟨decorator, left.length, left.length + written.length⟩
        (by rw [hitsFrom]; exact List.mem_cons_self)
      refine ⟨?_, fun hneeds => ?_, ih (left ++ written) fun call hmem => ?_⟩
      · obtain ⟨written', hsplit, hspelled⟩ := Decorator.spelled_of_read hread hcall.1
        rwa [List.append_cancel_right hsplit]
      · have hdetached := hcall.2 hneeds
        have hdrop : (left ++ (written ++ rest)).drop (left.length + written.length) = rest := by
          rw [← List.append_assoc, List.drop_left' (by simp)]
        rw [hdrop] at hdetached
        rwa [join, hrest.flatMap_text]
      · rw [List.length_append] at hmem
        rw [List.append_assoc]
        exact hcalls call (by rw [hitsFrom]; exact List.mem_cons_of_mem _ hmem)

/-- The segments of a text whose loose decorators are detached stand apart. -/
theorem standApart_decoratorSegments (hclosed : IsClosed text)
    (hloose : LooseApart loose after text) : StandApart loose after (decoratorSegments text) :=
  standApart_of_segmented (segmented_segments Decorator.advances_read text) []
    fun call hcall => ⟨hclosed call hcall, hloose call hcall⟩

theorem join_decoratorSegments (text : Text) : join (decoratorSegments text) = text :=
  (segmented_segments Decorator.advances_read text).flatMap_text

end Text

/-! ## Rewriting -/

/-- The front of a text as the text before it sees it: whether a word goes on, a bracket follows or
a name starts there.  `after` stands behind both texts. -/
structure Follows (after a b : Text) : Prop where
  word : (∀ c ∈ (a ++ after).head?, isWord c = false) → ∀ c ∈ (b ++ after).head?, isWord c = false
  bracket : (∀ c ∈ ((a ++ after).dropWhile isBlank).head?, c ≠ '(') →
    ∀ c ∈ ((b ++ after).dropWhile isBlank).head?, c ≠ '('
  name : (∀ c ∈ a.head?, isNameStart c = false) → ∀ c ∈ b.head?, isNameStart c = false

namespace Follows

variable {after a b : Text}

theorem refl (after a : Text) : Follows after a a :=
  ⟨id, id, id⟩

theorem trans {c : Text} (h : Follows after a b) (h' : Follows after b c) : Follows after a c :=
  ⟨h'.word ∘ h.word, h'.bracket ∘ h.bracket, h'.name ∘ h.name⟩

theorem isDetached (h : Follows after a b) (ha : IsDetached (a ++ after)) :
    IsDetached (b ++ after) :=
  ⟨h.word ha.1, h.bracket ha.2⟩

theorem cons (h : Follows after a b) (c : Char) : Follows after (c :: a) (c :: b) where
  word := id
  bracket := by
    simp only [List.cons_append, List.dropWhile_cons]
    split
    · exact h.bracket
    · exact id
  name := id

/-- What is detached may go. -/
theorem of_isDetached (h : Follows after a b) (ha : IsDetached (a ++ after)) (written : Text) :
    Follows after (written ++ a) b where
  word _ := h.word ha.1
  bracket _ := h.bracket ha.2
  name _ := by
    intro c hc
    have hword := h.word ha.1 c (by rw [List.head?_append, Option.mem_def.mp hc]; rfl)
    by_contra hstart
    rw [isWord_of_isNameStart (Bool.not_eq_false _ ▸ hstart)] at hword
    cases hword

theorem of_mark (after a b : Text) : Follows after a ('@' :: b) where
  word _ := by simp; decide
  bracket _ := by
    rw [List.cons_append, List.dropWhile_cons_of_neg (by decide)]
    simp
  name _ := by simp; decide

end Follows

/-- The segments with others in place of each decorator. -/
def rewriteSegments (form : Decorator → Text → List (Segment Decorator))
    (pieces : List (Segment Decorator)) : List (Segment Decorator) :=
  pieces.flatMap fun piece =>
    match piece with
    | .plain c => [.plain c]
    | .hit decorator written => form decorator written

/-- The segments in place of a decorator fit there.  They are gone altogether only if the decorator
is detached, and start with a mark otherwise. -/
structure FitsIn (loose : Text → Bool) (form : Decorator → Text → List (Segment Decorator)) :
    Prop where
  stands : ∀ {decorator written after rest}, decorator.Spelled written →
    (decorator.argument = none ∨ loose decorator.name = true → IsDetached (join rest ++ after)) →
    StandApart loose after rest → StandApart loose after (form decorator written ++ rest)
  starts : ∀ {decorator written}, decorator.Spelled written →
    form decorator written = [] ∧ loose decorator.name = true ∨
      ∃ tail, join (form decorator written) = '@' :: tail

section Rewriting

variable {loose : Text → Bool} {after : Text} {pieces : List (Segment Decorator)}
  {form : Decorator → Text → List (Segment Decorator)}

@[simp] theorem rewriteSegments_plain (c : Char) (rest : List (Segment Decorator)) :
    rewriteSegments form (.plain c :: rest) = .plain c :: rewriteSegments form rest := rfl

@[simp] theorem rewriteSegments_hit (decorator : Decorator) (written : Text)
    (rest : List (Segment Decorator)) : rewriteSegments form (.hit decorator written :: rest)
      = form decorator written ++ rewriteSegments form rest := rfl

@[simp] theorem rewriteSegments_append (front back : List (Segment Decorator)) :
    rewriteSegments form (front ++ back)
      = rewriteSegments form front ++ rewriteSegments form back :=
  List.flatMap_append

/-- Segments that stand apart still do when they are rewritten, and look the same from in front. -/
theorem StandApart.rewrite (hform : FitsIn loose form) (h : StandApart loose after pieces) :
    StandApart loose after (rewriteSegments form pieces) ∧
      Follows after (join pieces) (join (rewriteSegments form pieces)) := by
  induction pieces with
  | nil => exact ⟨trivial, .refl _ _⟩
  | cons piece rest ih =>
      cases piece with
      | plain c =>
          obtain ⟨hapart, hfollows⟩ := ih h.2
          exact ⟨⟨fun hc => hfollows.name (h.1 hc), hapart⟩, hfollows.cons c⟩
      | hit decorator written =>
          obtain ⟨hspelled, hdetached, hrest⟩ := h
          obtain ⟨hapart, hfollows⟩ := ih hrest
          have hdetached' := fun hneeds => hfollows.isDetached (hdetached hneeds)
          refine ⟨hform.stands hspelled hdetached' hapart, ?_⟩
          rw [rewriteSegments_hit, join_append, join_hit]
          rcases hform.starts hspelled with ⟨hnil, hloose⟩ | ⟨tail, htail⟩
          · rw [hnil]
            exact hfollows.of_isDetached (hdetached (Or.inr hloose)) written
          · rw [htail]
            exact .of_mark _ _ _

/-- Rewriting keeps the semicolon at the end. -/
theorem StandApart.getLast?_rewrite (h : StandApart loose after pieces)
    (hlast : (join pieces).getLast? = some ';') :
    (join (rewriteSegments form pieces)).getLast? = some ';' := by
  induction pieces with
  | nil => cases hlast
  | cons piece rest ih =>
      rcases h.semicolon_cons hlast with ⟨rfl, rfl⟩ | hend
      · rfl
      · cases piece with
        | plain c =>
            rw [rewriteSegments_plain, join_plain, List.getLast?_cons, ih h.2 hend]
            rfl
        | hit decorator written =>
            rw [rewriteSegments_hit, join_append, List.getLast?_append, ih h.2.2 hend]
            rfl

/-- The decorators among rewritten segments. -/
theorem filterMap_value?_rewriteSegments (valuesOf : Decorator → List Decorator)
    (hvalues : ∀ decorator written,
      (form decorator written).filterMap Segment.value? = valuesOf decorator) :
    (rewriteSegments form pieces).filterMap Segment.value?
      = (pieces.filterMap Segment.value?).flatMap valuesOf := by
  induction pieces with
  | nil => rfl
  | cons piece rest ih =>
      cases piece with
      | plain c =>
          rw [rewriteSegments_plain, List.filterMap_cons_none rfl, List.filterMap_cons_none rfl, ih]
      | hit decorator written =>
          rw [rewriteSegments_hit, List.filterMap_append, hvalues, ih]
          rfl

/-! ### Taking out -/

/-- The segments in place of a decorator when those with a chosen name are taken out. -/
def withoutChosen (chosen : Text → Bool) (decorator : Decorator) (written : Text) :
    List (Segment Decorator) :=
  if chosen decorator.name then [] else [.hit decorator written]

theorem fitsIn_withoutChosen {chosen : Text → Bool}
    (hchosen : ∀ name, chosen name = true → loose name = true) :
    FitsIn loose (withoutChosen chosen) where
  stands {decorator written after rest} hspelled hdetached hrest := by
    unfold withoutChosen
    split
    · exact hrest
    · exact ⟨hspelled, hdetached, hrest⟩
  starts {decorator written} hspelled := by
    unfold withoutChosen
    split
    next h => exact Or.inl ⟨rfl, hchosen _ h⟩
    next =>
      obtain ⟨tail, rfl⟩ := hspelled.exists_eq_cons
      exact Or.inr ⟨tail, by simp⟩

theorem filterMap_value?_withoutChosen (chosen : Text → Bool)
    (pieces : List (Segment Decorator)) :
    (rewriteSegments (withoutChosen chosen) pieces).filterMap Segment.value?
      = (pieces.filterMap Segment.value?).filter fun decorator => !chosen decorator.name := by
  rw [filterMap_value?_rewriteSegments fun decorator =>
    if chosen decorator.name then [] else [decorator]]
  · induction pieces.filterMap Segment.value? with
    | nil => rfl
    | cons decorator rest ih =>
        rw [List.flatMap_cons, ih, List.filter_cons]
        cases chosen decorator.name <;> rfl
  · intro decorator written
    unfold withoutChosen
    split <;> rfl

theorem removeOnce_join {chosen : Text → Bool} (h : StandApart loose after pieces) :
    removeOnce chosen (join pieces) = join (rewriteSegments (withoutChosen chosen) pieces) := by
  rw [removeOnce, decoratorSegments_join h]
  clear h
  induction pieces with
  | nil => rfl
  | cons piece rest ih =>
      rw [List.flatMap_cons, ih]
      cases piece with
      | plain c => rfl
      | hit decorator written =>
          rw [rewriteSegments_hit, join_append, withoutChosen]
          dsimp only
          cases chosen decorator.name <;> simp

theorem rewriteSegments_withoutChosen_of_none {chosen : Text → Bool}
    (h : ∀ decorator ∈ pieces.filterMap Segment.value?, chosen decorator.name = false) :
    rewriteSegments (withoutChosen chosen) pieces = pieces := by
  induction pieces with
  | nil => rfl
  | cons piece rest ih =>
      cases piece with
      | plain c => exact congrArg _ (ih h)
      | hit decorator written =>
          have hmem : ∀ other ∈ decorator :: rest.filterMap Segment.value?,
              chosen other.name = false := h
          rw [List.forall_mem_cons] at hmem
          rw [rewriteSegments_hit, ih hmem.2, withoutChosen, hmem.1]
          rfl

theorem removeWithin_of_none {chosen : Text → Bool} {text : Text}
    (h : ∀ decorator ∈ (decoratorSegments text).filterMap Segment.value?,
      chosen decorator.name = false) (rounds : Nat) : removeWithin chosen rounds text = text := by
  cases rounds with
  | zero => rfl
  | succ rounds =>
      rw [removeWithin, any_calls_eq fun decorator => chosen decorator.name,
        List.any_eq_false.mpr (by simpa only [Bool.not_eq_true] using h), if_neg (by decide)]

/-- Taking decorators out leaves exactly the others, in one round. -/
theorem removeDecorators_join {chosen : Text → Bool}
    (hchosen : ∀ name, chosen name = true → loose name = true)
    (h : StandApart loose after pieces) :
    removeDecorators chosen (join pieces)
      = join (rewriteSegments (withoutChosen chosen) pieces) := by
  have hapart := (h.rewrite (fitsIn_withoutChosen hchosen)).1
  have hnone : ∀ decorator ∈ (decoratorSegments
      (join (rewriteSegments (withoutChosen chosen) pieces))).filterMap Segment.value?,
      chosen decorator.name = false := by
    intro decorator hmem
    rw [decoratorSegments_join hapart, filterMap_value?_withoutChosen, List.mem_filter] at hmem
    simpa using hmem.2
  rw [removeDecorators]
  cases hlength : (join pieces).length with
  | zero =>
      -- There is nothing to take anything out of.
      have hsegments := decoratorSegments_join h
      rw [List.length_eq_zero_iff.mp hlength] at hsegments ⊢
      rw [← hsegments]
      rfl
  | succ rounds =>
      rw [removeWithin]
      split
      next => rw [removeOnce_join h, removeWithin_of_none hnone]
      next hany =>
        rw [any_calls_eq fun decorator => chosen decorator.name, decoratorSegments_join h,
          List.any_eq_true, not_exists] at hany
        rw [rewriteSegments_withoutChosen_of_none fun decorator hmem =>
          Bool.eq_false_iff.mpr fun hchosen => hany decorator ⟨hmem, hchosen⟩]

end Rewriting

end ShaderMarkup
