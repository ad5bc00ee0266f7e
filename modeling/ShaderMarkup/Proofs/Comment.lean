import Mathlib.Data.List.Forall2
import ShaderMarkup.Proofs.Segments
import ShaderMarkup.Shader

/-!
# Blanking comments out

Comments are written over with spaces, so a place in the source means the same before and after.
The facts about it come from two relations:

* `Blanked` relates the two texts place by place: a character stays, or a space takes its place
  unless it ends a line.  Such a text has the same lines (`count_newline_of_blanked`), and no
  comment that was not there before (`comment_isSome_of_blanked`);
* `Segmented` says where the comments are.  No place behind which the search has gone on starts a
  comment, so none is left (`comment_eq_none_of_suffix`), and nothing outside the comments is
  written over (`inComment_of_ne`).

A text is left as it is exactly if it has no comment (`stripComments_eq_self_iff`).  So blanking out
twice is blanking out once, and a compilation does not see the difference.
-/

namespace ShaderMarkup

/-! ## Reading comments -/

theorem afterBlockEnd_isSome_iff {text : Text} :
    (afterBlockEnd text).isSome ↔ ['*', '/'] <:+: text := by
  fun_induction afterBlockEnd text with
  | case1 => simp
  | case2 remaining => simpa using ⟨[], remaining, rfl⟩
  | case3 c rest hstart ih =>
      rw [ih, List.infix_cons_iff]
      constructor
      · exact Or.inr
      · rintro (hleading | hwithin)
        · obtain ⟨remaining, heq⟩ := hleading
          cases heq
          exact absurd rfl (hstart remaining rfl)
        · exact hwithin

theorem comment_isSome_iff {text : Text} :
    (comment text).isSome ↔ ['/', '/'] <+: text ∨
      ∃ rest, text = '/' :: '*' :: rest ∧ ['*', '/'] <:+: rest := by
  unfold comment
  split
  next rest => simp [Option.isSome_map, afterBlockEnd_isSome_iff]
  next rest => simp
  next hblock hline =>
    simp only [Option.isSome_none, Bool.false_eq_true, false_iff, not_or, not_exists, not_and]
    refine ⟨?_, fun rest heq => absurd heq (hblock rest)⟩
    rintro ⟨rest, heq⟩
    exact hline rest heq.symm

/-- A comment as it is written: from `//` on within a line, or from `/*` to the first `*/` behind
it. -/
inductive IsComment : Text → Prop
  | line {body : Text} (hbody : '\n' ∉ body) : IsComment ('/' :: '/' :: body)
  | block {body : Text} (hbody : ¬ ['*', '/'] <:+: body ++ ['*']) :
      IsComment ('/' :: '*' :: (body ++ ['*', '/']))

theorem exists_of_afterBlockEnd {text rest : Text} (h : afterBlockEnd text = some rest) :
    ∃ body, text = body ++ '*' :: '/' :: rest ∧ ¬ ['*', '/'] <:+: body ++ ['*'] := by
  fun_induction afterBlockEnd text with
  | case1 => cases h
  | case2 remaining =>
      cases h
      exact ⟨[], rfl, by decide⟩
  | case3 c behind hstart ih =>
      obtain ⟨body, rfl, hbody⟩ := ih h
      refine ⟨c :: body, rfl, ?_⟩
      rw [List.cons_append, List.infix_cons_iff, not_or]
      refine ⟨?_, hbody⟩
      -- The mark is not at the front: there the search would have ended.
      rintro ⟨tail, heq⟩
      obtain ⟨rfl, heq⟩ : '*' = c ∧ '/' :: tail = body ++ ['*'] := by simpa using heq
      cases body with
      | nil => simp at heq
      | cons d body =>
          cases heq
          exact hstart _ rfl rfl

theorem exists_of_comment {text rest : Text} {u : Unit} (h : comment text = some (u, rest)) :
    ∃ written, text = written ++ rest ∧ IsComment written := by
  unfold comment at h
  split at h
  next behind =>
    obtain ⟨remaining, hend, heq⟩ := Option.map_eq_some_iff.mp h
    cases heq
    obtain ⟨body, rfl, hbody⟩ := exists_of_afterBlockEnd hend
    exact ⟨'/' :: '*' :: (body ++ ['*', '/']), by simp, .block hbody⟩
  next behind =>
    cases h
    refine ⟨'/' :: '/' :: behind.takeWhile (· != '\n'), ?_, .line fun hmem => ?_⟩
    · simp only [List.cons_append, List.takeWhile_append_dropWhile]
    · have hnewline := List.mem_takeWhile_imp hmem
      simp at hnewline
  next => cases h

theorem IsComment.ne_nil {written : Text} (h : IsComment written) : written ≠ [] := by
  cases h <;> exact List.cons_ne_nil _ _

theorem advances_comment : (anywhere comment).Advances := by
  intro before text u rest h
  obtain ⟨written, htext, hwritten⟩ := exists_of_comment h
  exact ⟨written, hwritten.ne_nil, htext⟩

/-! ## Place by place -/

/-- What can stand in the place of a character: itself, or a space unless it ends a line. -/
def Blanked (kept c : Char) : Prop :=
  kept = c ∨ kept = ' ' ∧ c ≠ '\n'

theorem Blanked.eq_newline_iff {kept c : Char} (h : Blanked kept c) : kept = '\n' ↔ c = '\n' := by
  rcases h with rfl | ⟨rfl, hc⟩
  · exact Iff.rfl
  · exact iff_of_false (by decide) hc

theorem blanked_blankOut (c : Char) : Blanked (blankOut c) c := by
  unfold blankOut
  split
  next h => exact Or.inl h.symm
  next h => exact Or.inr ⟨rfl, h⟩

theorem comment_blankOut_cons (c : Char) (rest : Text) : comment (blankOut c :: rest) = none := by
  unfold blankOut
  split <;> rfl

section Texts

variable {kept text : Text}

theorem rel_getElem?_of_blanked (h : List.Forall₂ Blanked kept text) (place : Nat) :
    Option.Rel Blanked kept[place]? text[place]? := by
  induction h generalizing place with
  | nil => exact .none
  | cons hfirst _ ih =>
      cases place with
      | zero => exact .some hfirst
      | succ place => exact ih place

theorem newline_iff_of_blanked {first second : Option Char} (h : Option.Rel Blanked first second) :
    first = some '\n' ↔ second = some '\n' := by
  cases h with
  | none => exact Iff.rfl
  | some hplace => rw [Option.some_inj, Option.some_inj, hplace.eq_newline_iff]

/-- What changes is a space then, and was no line end. -/
theorem changed_of_blanked {first second : Option Char} (h : Option.Rel Blanked first second)
    (hne : first ≠ second) : first = some ' ' ∧ second ≠ some '\n' := by
  cases h with
  | none => exact absurd rfl hne
  | some hplace =>
      rcases hplace with rfl | ⟨rfl, hc⟩
      · exact absurd rfl hne
      · exact ⟨rfl, by simpa using hc⟩

theorem count_newline_of_blanked (h : List.Forall₂ Blanked kept text) :
    kept.count '\n' = text.count '\n' := by
  induction h with
  | nil => rfl
  | cons hfirst _ ih => simp only [List.count_cons, ih, beq_iff_eq, hfirst.eq_newline_iff]

/-- What is left of a text in front and has no space in it was there before. -/
theorem exists_append_of_blanked {word rest : Text} (hword : ' ' ∉ word)
    (h : List.Forall₂ Blanked (word ++ rest) text) :
    ∃ behind, text = word ++ behind ∧ List.Forall₂ Blanked rest behind := by
  induction word generalizing text with
  | nil => exact ⟨text, rfl, h⟩
  | cons c word ih =>
      rw [List.mem_cons, not_or] at hword
      obtain ⟨d, others, hfirst, hothers, rfl⟩ := List.forall₂_cons_left_iff.mp h
      obtain rfl : c = d := hfirst.resolve_right fun hblank => hword.1 hblank.1.symm
      obtain ⟨behind, rfl, hbehind⟩ := ih hword.2 hothers
      exact ⟨behind, rfl, hbehind⟩

theorem infix_of_blanked {word : Text} (hword : ' ' ∉ word) (h : List.Forall₂ Blanked kept text)
    (hfound : word <:+: kept) : word <:+: text := by
  obtain ⟨left, right, rfl⟩ := hfound
  have hbehind := List.forall₂_drop left.length h
  rw [List.append_assoc, List.drop_left] at hbehind
  obtain ⟨behind, heq, -⟩ := exists_append_of_blanked hword hbehind
  exact ⟨text.take left.length, behind, by rw [List.append_assoc, ← heq, List.take_append_drop]⟩

/-- Blanking out makes no comment. -/
theorem comment_isSome_of_blanked (h : List.Forall₂ Blanked kept text)
    (hkept : (comment kept).isSome) : (comment text).isSome := by
  rw [comment_isSome_iff] at hkept ⊢
  rcases hkept with ⟨rest, rfl⟩ | ⟨rest, rfl, hclosed⟩
  · obtain ⟨behind, rfl, -⟩ := exists_append_of_blanked (by decide) h
    exact Or.inl ⟨behind, rfl⟩
  · have hopened : List.Forall₂ Blanked (['/', '*'] ++ rest) text := h
    obtain ⟨behind, rfl, hbehind⟩ := exists_append_of_blanked (by decide) hopened
    exact Or.inr ⟨behind, rfl, infix_of_blanked (by decide) hbehind hclosed⟩

end Texts

/-! ## Comment by comment -/

/-- A segment with its comment blanked out. -/
def blankedPiece : Segment Unit → Text
  | .plain c => [c]
  | .hit _ written => written.map blankOut

/-- The place is one of a comment. -/
def InComment (code : Text) (place : Nat) : Prop :=
  ∃ left written right, code = left ++ (written ++ right) ∧ IsComment written ∧
    left.length ≤ place ∧ place < left.length + written.length

theorem InComment.append {text : Text} {place : Nat} (h : InComment text place) (front : Text) :
    InComment (front ++ text) (front.length + place) := by
  obtain ⟨left, written, right, rfl, hwritten, hfrom, hto⟩ := h
  refine ⟨front ++ left, written, right, (List.append_assoc _ _ _).symm, hwritten, ?_, ?_⟩ <;>
    rw [List.length_append] <;> omega

section Pieces

variable {before : Option Char} {text : Text} {pieces : List (Segment Unit)}

theorem blanked_of_segmented (h : Segmented (anywhere comment) before text pieces) :
    List.Forall₂ Blanked (pieces.flatMap blankedPiece) text := by
  induction h with
  | nil => exact .nil
  | plain _ _ ih => exact .cons (Or.inl rfl) ih
  | hit _ _ _ ih =>
      refine List.rel_append ?_ ih
      exact List.forall₂_map_left_iff.mpr (List.forall₂_same.mpr fun c _ => blanked_blankOut c)

/-- Once the comments are blanked out, none starts anywhere. -/
theorem comment_eq_none_of_suffix (h : Segmented (anywhere comment) before text pieces)
    {right : Text} (hright : right <:+ pieces.flatMap blankedPiece) : comment right = none := by
  induction h with
  | nil =>
      rw [List.suffix_nil.mp hright]
      rfl
  | @plain before c rest pieces hread hrest ih =>
      rcases List.suffix_cons_iff.mp hright with rfl | hright
      · by_contra hsome
        have hblanked : List.Forall₂ Blanked (c :: pieces.flatMap blankedPiece) (c :: rest) :=
          .cons (Or.inl rfl) (blanked_of_segmented hrest)
        have hthere := comment_isSome_of_blanked hblanked (Option.isSome_iff_ne_none.mpr hsome)
        rw [show comment (c :: rest) = none from hread] at hthere
        cases hthere
      · exact ih hright
  | @hit before value written rest pieces hne hread hrest ih =>
      obtain ⟨left, heq⟩ := hright
      rcases List.append_eq_append_iff.mp heq with ⟨gap, hgap, rfl⟩ | ⟨gap, -, hgap⟩
      · cases gap with
        | nil => exact ih List.suffix_rfl
        | cons c gap =>
            -- The text starts within the comment that was blanked out.
            obtain ⟨_, inside, -, -, hinside⟩ := List.map_eq_append_iff.mp hgap
            obtain ⟨d, _, -, rfl, -⟩ := List.map_eq_cons_iff.mp hinside
            exact comment_blankOut_cons d _
      · exact ih ⟨gap, hgap.symm⟩

/-- Only comments are written over. -/
theorem inComment_of_ne (h : Segmented (anywhere comment) before text pieces) {place : Nat}
    (hne : (pieces.flatMap blankedPiece)[place]? ≠ text[place]?) : InComment text place := by
  induction h generalizing place with
  | nil => exact absurd rfl hne
  | @plain before c rest pieces hread hrest ih =>
      cases place with
      | zero => exact absurd rfl hne
      | succ place =>
          rw [Nat.add_comm]
          exact (ih hne).append [c]
  | @hit before value written rest pieces hwritten hread hrest ih =>
      obtain ⟨_, heq, hcomment⟩ := exists_of_comment hread
      obtain rfl := List.append_cancel_right heq
      by_cases hplace : place < written.length
      · exact ⟨[], written, rest, rfl, hcomment, Nat.zero_le _, by simpa using hplace⟩
      · obtain ⟨behind, rfl⟩ := Nat.exists_eq_add_of_le (Nat.le_of_not_lt hplace)
        refine (ih fun hsame => hne ?_).append written
        rw [List.flatMap_cons, blankedPiece, List.getElem?_append_right (by simp),
          List.getElem?_append_right (by simp), List.length_map, Nat.add_sub_cancel_left, hsame]

end Pieces

/-! ## Texts without comments -/

theorem segmentsFrom_of_searchFrom_eq_none {α : Type} {recognizer : Recognizer α}
    {before : Option Char} {offset : Nat} {text : Text}
    (h : searchFrom recognizer before offset text = none) :
    segmentsFrom recognizer 0 before text = text.map .plain := by
  induction text generalizing before offset with
  | nil => rfl
  | cons c rest ih =>
      rw [searchFrom] at h
      split at h
      next => cases h
      next hread => rw [segmentsFrom_of_none hread, ih h, List.map_cons]

/-- A shape occurs nowhere when it is read at no place. -/
theorem not_occurs_anywhere_iff {α : Type} {reader : Reader α} {text : Text} :
    occurs (anywhere reader) text = false ↔
      ∀ left right, text = left ++ right → reader right = none := by
  constructor
  · exact fun h left right htext => eq_none_of_not_occurs h htext
  · intro h
    by_contra hoccurs
    obtain ⟨found, hfound⟩ : ∃ found, search (anywhere reader) text = some found :=
      Option.ne_none_iff_exists'.mp (by simpa [occurs] using hoccurs)
    obtain ⟨left, right, rest, htext, _, hread⟩ := exists_of_searchFrom hfound
    have hread : reader right = some (found.value, rest) := hread
    rw [h left right htext] at hread
    cases hread

/-- A source without comments is left as it is. -/
theorem stripComments_of_not_occurs {code : Text} (h : occurs (anywhere comment) code = false) :
    stripComments code = code := by
  have hnone : searchFrom (anywhere comment) none 0 code = none := by
    simpa [occurs, search] using h
  unfold stripComments segments
  rw [segmentsFrom_of_searchFrom_eq_none hnone, List.flatMap_map]
  exact List.flatMap_singleton' code

/-- There is no comment in the text: no `//`, and no `/*` that a `*/` follows. -/
structure IsCommentFree (text : Text) : Prop where
  no_line : ¬ ['/', '/'] <:+: text
  no_block : ¬ ∃ left middle right, text = left ++ '/' :: '*' :: (middle ++ '*' :: '/' :: right)

theorem isCommentFree_iff {text : Text} :
    IsCommentFree text ↔ occurs (anywhere comment) text = false := by
  rw [not_occurs_anywhere_iff]
  constructor
  · rintro ⟨hline, hblock⟩ left right rfl
    by_contra hsome
    rcases comment_isSome_iff.mp (Option.isSome_iff_ne_none.mpr hsome) with
      hfront | ⟨rest, rfl, middle, behind, rfl⟩
    · exact hline (hfront.isInfix.trans (List.suffix_append left right).isInfix)
    · exact hblock ⟨left, middle, behind, by simp⟩
  · intro h
    have hread {left right : Text} (htext : text = left ++ right) : ¬ (comment right).isSome := by
      rw [h left right htext]
      exact Bool.false_ne_true
    constructor
    · rintro ⟨left, right, rfl⟩
      exact hread (List.append_assoc _ _ _) (comment_isSome_iff.mpr (Or.inl ⟨right, rfl⟩))
    · rintro ⟨left, middle, right, rfl⟩
      exact hread rfl
        (comment_isSome_iff.mpr (Or.inr ⟨_, rfl, ⟨middle, right, by simp⟩⟩))

/-! ## The whole source -/

section Source

variable (code : Text)

theorem blanked_stripComments : List.Forall₂ Blanked (stripComments code) code :=
  blanked_of_segmented (segmented_segments advances_comment code)

theorem length_stripComments : (stripComments code).length = code.length :=
  (blanked_stripComments code).length_eq

theorem isCommentFree_stripComments : IsCommentFree (stripComments code) :=
  isCommentFree_iff.mpr (not_occurs_anywhere_iff.mpr fun left _ htext =>
    comment_eq_none_of_suffix (segmented_segments advances_comment code) ⟨left, htext.symm⟩)

theorem stripComments_eq_self_iff : stripComments code = code ↔ IsCommentFree code := by
  constructor
  · intro h
    rw [← h]
    exact isCommentFree_stripComments code
  · exact fun h => stripComments_of_not_occurs (isCommentFree_iff.mp h)

theorem stripComments_stripComments : stripComments (stripComments code) = stripComments code :=
  (stripComments_eq_self_iff _).mpr (isCommentFree_stripComments code)

/-- A place is on the same line before and after. -/
theorem lineAt_stripComments (offset : Nat) :
    Text.lineAt (stripComments code) offset = Text.lineAt code offset := by
  have hcount := count_newline_of_blanked (List.forall₂_take offset (blanked_stripComments code))
  rw [Text.lineAt, Text.lineAt, hcount]

theorem compile_stripComments (environment : Environment) (settings : Settings) :
    compile (stripComments code) environment settings = compile code environment settings := by
  have hsource : compileSource (stripComments code) environment settings
      = compileSource code environment settings := by
    unfold compileSource
    rw [stripComments_stripComments]
  unfold compile
  rw [hsource]

/-- Blanking out keeps every place of a source.  The text is as long as before and has its line ends
where they were; a character that changes becomes a space, and is one of a comment.  No comment is
left: blanking out once more changes nothing, nor does it change a source without comments.  Every
offset is on the line it was on, also one that counts from the end, and a compilation ends in the
same way. -/
theorem stripComments_keeps_places :
    (stripComments code).length = code.length ∧
    (∀ place : Nat, (stripComments code)[place]? = some '\n' ↔ code[place]? = some '\n') ∧
    (∀ place : Nat, (stripComments code)[place]? ≠ code[place]? →
      (stripComments code)[place]? = some ' ' ∧ code[place]? ≠ some '\n' ∧ InComment code place) ∧
    IsCommentFree (stripComments code) ∧
    (stripComments code = code ↔ IsCommentFree code) ∧
    stripComments (stripComments code) = stripComments code ∧
    (∀ offset : Int, Text.lineAt (stripComments code) (Text.position (stripComments code) offset)
      = Text.lineAt code (Text.position code offset)) ∧
    ∀ environment settings,
      compile (stripComments code) environment settings = compile code environment settings := by
  have hrel := rel_getElem?_of_blanked (blanked_stripComments code)
  refine ⟨length_stripComments code, fun place => newline_iff_of_blanked (hrel place),
    fun place hne => ?_, isCommentFree_stripComments code, stripComments_eq_self_iff code,
    stripComments_stripComments code, fun offset => ?_, compile_stripComments code⟩
  · have hinside := inComment_of_ne (segmented_segments advances_comment code) hne
    obtain ⟨hspace, hnewline⟩ := changed_of_blanked (hrel place) hne
    exact ⟨hspace, hnewline, hinside⟩
  · rw [Text.position, Text.position, length_stripComments, lineAt_stripComments]

end Source

end ShaderMarkup
