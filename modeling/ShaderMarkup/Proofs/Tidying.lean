import ShaderMarkup.Proofs.PlainForm

/-!
# Tidying white space around decorators

Emission squeezes runs of white space and drops indentation.  `IsRespacer` says what the two passes
have in common: they go from left to right and touch nothing but white space, and in front of a
bracket they put nothing in the gap that may not stand there.  So segments that stand apart still do
in the tidied text, with the same names (`IsRespacer.exists_of_join`).
-/

namespace ShaderMarkup

open Segment (join)

/-! ## White space written anew -/

theorem Respaced.head? {a b : Text} (h : Respaced a b) {p : Char → Prop}
    (hblank : ∀ c, isBlank c = true → p c) (ha : ∀ c ∈ a.head?, p c) : ∀ c ∈ b.head?, p c := by
  cases h with
  | nil => simp
  | keep e _ => simpa using ha
  | @anew v w a b hv hw hne hne' hspace _ =>
      intro c hc
      cases w with
      | nil => exact absurd rfl hne'
      | cons d w =>
          cases hc
          exact hblank c (hw c List.mem_cons_self)

theorem Respaced.isDetached {a b : Text} (h : Respaced a b) (ha : IsDetached a) : IsDetached b := by
  refine ⟨h.head? (fun c hc => isWord_eq_false_of_isBlank hc) ha.1, ?_⟩
  have hbracket := ha.2
  clear ha
  induction h with
  | nil => simp
  | keep e h ih =>
      rw [List.dropWhile_cons] at hbracket ⊢
      split
      next he => exact ih (by rwa [if_pos he] at hbracket)
      next he => simpa [if_neg he] using hbracket
  | anew hv hw _ _ _ _ ih =>
      rw [List.dropWhile_append_of_pos hv] at hbracket
      rw [List.dropWhile_append_of_pos hw]
      exact ih hbracket

theorem depthBehind_blank {gap : Text} (hgap : ∀ c ∈ gap, isBlank c = true) (depth : Int) :
    depthBehind depth gap = some depth := by
  refine depthBehind_free (fun c hc => ?_) depth
  have hblank := hgap c hc
  constructor <;> by_contra hbracket <;>
    simp only [isOpening, isClosing, Bool.not_eq_false, Bool.or_eq_true, beq_iff_eq] at hbracket <;>
    rcases hbracket with (rfl | rfl) | rfl <;> cases hblank

theorem Respaced.depthBehind_eq {a b : Text} (h : Respaced a b) (depth : Int) :
    depthBehind depth a = depthBehind depth b := by
  induction h generalizing depth with
  | nil => rfl
  | keep e _ ih => simp only [depthBehind, ih]
  | anew hv hw _ _ _ _ ih =>
      rw [depthBehind_append, depthBehind_append, depthBehind_blank hv, depthBehind_blank hw,
        Option.bind_some, Option.bind_some, ih]

/-! ## Passes -/

/-- A function that only touches white space, from left to right.  The flag says whether a line
starts; behind a character that is no white space none does. -/
structure IsRespacer (tidy : Bool → Text → Text) : Prop where
  nil : ∀ flag, tidy flag [] = []
  cut : ∀ flag a {c} b, isBlank c = false →
    tidy flag (a ++ c :: b) = tidy flag a ++ c :: tidy false b
  blank : ∀ flag {c} rest, isBlank c = true → ∃ lead flag', tidy flag (c :: rest)
    = lead ++ tidy flag' rest ∧ ∀ d ∈ lead, d = c ∨ d = ' '
  respaced : ∀ a, Respaced a (tidy false a)

theorem isRespacer_squeeze : IsRespacer fun _ => squeeze where
  nil _ := rfl
  cut _ a c b hc := by
    have hsolid : isHorizontal c = false := by
      by_contra hspace
      rw [isBlank_of_isHorizontal (Bool.not_eq_false _ ▸ hspace)] at hc
      cases hc
    induction a with
    | nil =>
        show squeeze (c :: b) = c :: squeeze b
        rw [squeeze, if_neg (by simp [hsolid])]
    | cons d a ih =>
        -- Whether another blank follows does not depend on what stands behind.
        have hnext : (a ++ c :: b).head?.any isHorizontal = a.head?.any isHorizontal := by
          cases a with
          | nil => simp [hsolid]
          | cons e a => rfl
        rw [List.cons_append, squeeze, squeeze, hnext, ih]
        split
        · split <;> rfl
        · rfl
  blank _ c rest _ := by
    rw [squeeze]
    split
    · split
      · exact ⟨[], false, rfl, by simp⟩
      · exact ⟨[' '], false, rfl, by simp⟩
    · exact ⟨[c], false, rfl, by simp⟩
  respaced := respaced_squeeze

theorem isRespacer_dropIndent : IsRespacer dropIndent where
  nil flag := rfl
  cut flag a c b hc := by
    have hline : c ≠ '\n' := by
      rintro rfl
      cases hc
    induction a generalizing flag with
    | nil =>
        show dropIndent flag (c :: b) = c :: dropIndent false b
        rw [dropIndent, if_neg hline, if_neg (by simp [hc])]
    | cons d a ih =>
        rw [List.cons_append, dropIndent, dropIndent]
        split
        · rw [ih]
          rfl
        · split
          · exact ih _
          · rw [ih]
            rfl
  blank flag c rest _ := by
    rw [dropIndent]
    split
    · exact ⟨[c], true, rfl, by simp⟩
    · split
      · exact ⟨[], true, rfl, by simp⟩
      · exact ⟨[c], false, rfl, by simp⟩
  respaced a := (respaced_dropIndent a).1

namespace IsRespacer

variable {tidy : Bool → Text → Text} (htidy : IsRespacer tidy)
include htidy

theorem solid (flag : Bool) {a : Text} (ha : ∀ c ∈ a, isBlank c = false) (hne : a ≠ []) (b : Text) :
    tidy flag (a ++ b) = a ++ tidy false b := by
  induction a generalizing flag with
  | nil => exact absurd rfl hne
  | cons c a ih =>
      rw [List.forall_mem_cons] at ha
      have hcut := htidy.cut flag [] (a ++ b) ha.1
      rw [htidy.nil, List.nil_append, List.nil_append] at hcut
      rw [List.cons_append, hcut]
      cases a with
      | nil => rfl
      | cons d a =>
          rw [ih false ha.2 (List.cons_ne_nil d a)]
          rfl

theorem isGap {gap : Text} (hgap : ∀ c ∈ gap, isGap c = true) (flag : Bool) :
    ∀ c ∈ tidy flag gap, ShaderMarkup.isGap c = true := by
  induction gap generalizing flag with
  | nil => simp [htidy.nil]
  | cons c gap ih =>
      rw [List.forall_mem_cons] at hgap
      obtain ⟨lead, flag', heq, hlead⟩ := htidy.blank flag gap (isBlank_of_isGap hgap.1)
      rw [heq, List.forall_mem_append]
      refine ⟨fun d hd => ?_, ih hgap.2 flag'⟩
      rcases hlead d hd with rfl | rfl
      · exact hgap.1
      · decide

/-- A decorator keeps its name, and its brackets if it has any. -/
theorem spelled {decorator : Decorator} {written : Text} (h : decorator.Spelled written)
    (flag : Bool) (rest : Text) :
    ∃ (tidied : Decorator) (written' : Text), tidied.name = decorator.name ∧
      (tidied.argument = none → decorator.argument = none) ∧ tidied.Spelled written' ∧
      tidy flag (written ++ rest) = written' ++ tidy false rest := by
  have hmark {name : Text} (hname : Reader.IsIdentifier name) :
      ∀ c ∈ '@' :: name, isBlank c = false := by
    rw [List.forall_mem_cons]
    exact ⟨by decide, fun c hc => isBlank_eq_false_of_isWord (hname.isWord c hc)⟩
  cases h with
  | @bare name hname =>
      exact ⟨_, _, rfl, id, .bare hname, htidy.solid flag (hmark hname) (by simp) rest⟩
  | @filled name gap argument close hname hgap hargument hclose =>
      have hsolid : isBlank close = false := by
        simp only [isClosing, Bool.or_eq_true, beq_iff_eq] at hclose
        rcases hclose with (rfl | rfl) | rfl <;> decide
      have hargument' : depthBehind 1 (tidy false argument) = some 1 := by
        rw [← (htidy.respaced argument).depthBehind_eq, hargument]
      refine ⟨⟨name, some (tidy false argument), true⟩, _, rfl, ?_,
        .filled hname (htidy.isGap hgap false) hargument' hclose, ?_⟩
      · intro hnone
        cases hnone
      · have hparts : '@' :: (name ++ (gap ++ '(' :: (argument ++ [close]))) ++ rest
            = ('@' :: name) ++ (gap ++ '(' :: (argument ++ close :: rest)) := by simp
        rw [hparts, htidy.solid flag (hmark hname) (by simp), htidy.cut false gap _ (by decide),
          htidy.cut false argument _ hsolid]
        simp

/-- Tidying the text of segments that stand apart keeps the decorators of every name. -/
theorem exists_of_join {loose : Text → Bool} {pieces : List (Segment Decorator)}
    (h : StandApart loose [] pieces) (flag : Bool) :
    ∃ tidied, join tidied = tidy flag (join pieces) ∧ StandApart loose [] tidied ∧
      ∀ name, countNamed name tidied = countNamed name pieces := by
  induction pieces generalizing flag with
  | nil => exact ⟨[], (htidy.nil flag).symm, trivial, fun _ => rfl⟩
  | cons piece rest ih =>
      cases piece with
      | plain c =>
          rw [join_plain]
          by_cases hc : isBlank c = true
          · obtain ⟨lead, flag', heq, hlead⟩ := htidy.blank flag (join rest) hc
            obtain ⟨tidied, hjoin, hapart, hcount⟩ := ih h.2 flag'
            refine ⟨lead.map .plain ++ tidied, ?_, standApart_map_plain_append ?_ hapart,
              fun name => ?_⟩
            · rw [join_append, join_map_plain, hjoin, heq]
            · intro hmem
              rcases hlead '@' hmem with rfl | heq
              · cases hc
              · cases heq
            · rw [countNamed_append, countNamed_map_plain, Nat.zero_add, hcount, countNamed_plain]
          · obtain ⟨tidied, hjoin, hapart, hcount⟩ := ih h.2 false
            refine ⟨.plain c :: tidied, ?_, ⟨fun hmark => ?_, hapart⟩, hcount⟩
            · rw [join_plain, hjoin]
              exact (htidy.solid flag (a := [c]) (by simpa using hc) (by simp) _).symm
            · rw [hjoin]
              refine (htidy.respaced _).head? (fun d hd => ?_) (h.1 hmark)
              by_contra hstart
              rw [isBlank_eq_false_of_isWord
                (isWord_of_isNameStart (Bool.not_eq_false _ ▸ hstart))] at hd
              cases hd
      | hit decorator written =>
          obtain ⟨hspelled, hdetached, hrest⟩ := h
          obtain ⟨tidied, hjoin, hapart, hcount⟩ := ih hrest false
          obtain ⟨decorator', written', hname, hbare, hspelled', heq⟩ :=
            htidy.spelled hspelled flag (join rest)
          refine ⟨.hit decorator' written' :: tidied, ?_, ⟨hspelled', fun hneeds => ?_, hapart⟩,
            fun name => ?_⟩
          · rw [join_hit, join_hit, heq, hjoin]
          · have hapart := hdetached (hneeds.imp hbare fun hloose => hname ▸ hloose)
            rw [List.append_nil] at hapart ⊢
            rw [hjoin]
            exact (htidy.respaced _).isDetached hapart
          · rw [countNamed_hit, countNamed_hit, hname, hcount]

end IsRespacer

end ShaderMarkup
