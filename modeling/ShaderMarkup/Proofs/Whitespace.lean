import Mathlib.Data.List.Basic
import ShaderMarkup.Proofs.Character

/-!
# What tidying does to a text

Emission tidies white space in three passes: `squeeze`, `unindent` and `tidyLines`.  None of them
touches a character that is not white space, and none of them makes a gap appear or disappear.  Two
relations say so:

* `Respaced a b`: `b` is `a` with some runs of white space written anew.  A single space is never
  written anew, and no run becomes empty.
* `Reflowed a b`: the same, where the white space at both ends may also come and go.

The three passes are instances (`respaced_squeeze`, `reflowed_unindent`, `reflowed_tidyLines`).
What a later proof needs is `Reflowed.middle`: a stretch of the text that starts and ends with
characters that are not white space is still there, respaced.
-/

namespace ShaderMarkup

/-! ## Runs of white space written anew -/

/-- The second text is the first one with some runs of white space written anew. -/
inductive Respaced : Text → Text → Prop
  | nil : Respaced [] []
  | keep (c : Char) {a b : Text} (h : Respaced a b) : Respaced (c :: a) (c :: b)
  | anew {v w a b : Text} (hv : ∀ c ∈ v, isBlank c = true) (hw : ∀ c ∈ w, isBlank c = true)
      (hne : v ≠ []) (hne' : w ≠ []) (hspace : v ≠ [' ']) (h : Respaced a b) :
      Respaced (v ++ a) (w ++ b)

namespace Respaced

theorem refl (a : Text) : Respaced a a := by
  induction a with
  | nil => exact nil
  | cons c a ih => exact keep c ih

theorem append {a b c d : Text} (h : Respaced a b) (h' : Respaced c d) :
    Respaced (a ++ c) (b ++ d) := by
  induction h with
  | nil => exact h'
  | keep e _ ih => exact keep e ih
  | anew hv hw hne hne' hspace _ ih =>
      rw [List.append_assoc, List.append_assoc]
      exact anew hv hw hne hne' hspace ih

theorem eq_nil_iff {a b : Text} (h : Respaced a b) : a = [] ↔ b = [] := by
  cases h with
  | nil => simp
  | keep c h => simp
  | anew hv hw hne hne' hspace h => simp [hne, hne']

/-- A text of white space stays one. -/
theorem blank {a b : Text} (h : Respaced a b) (ha : ∀ c ∈ a, isBlank c = true) :
    ∀ c ∈ b, isBlank c = true := by
  induction h with
  | nil => exact ha
  | keep e _ ih =>
      simp only [List.forall_mem_cons] at ha ⊢
      exact ⟨ha.1, ih ha.2⟩
  | anew hv hw hne hne' hspace _ ih =>
      simp only [List.forall_mem_append] at ha ⊢
      exact ⟨hw, ih ha.2⟩

/-- No character is added that is not white space. -/
theorem mem {a b : Text} (h : Respaced a b) {c : Char} (hc : c ∈ b) (hc' : isBlank c = false) :
    c ∈ a := by
  induction h with
  | nil => exact hc
  | keep e _ ih =>
      rcases List.mem_cons.mp hc with rfl | hc
      · exact List.mem_cons_self
      · exact List.mem_cons_of_mem _ (ih hc)
  | anew hv hw hne hne' hspace _ ih =>
      rcases List.mem_append.mp hc with hc | hc
      · rw [hw c hc] at hc'
        cases hc'
      · exact List.mem_append_right _ (ih hc)

/-- White space in front of white space can be joined to it. -/
theorem cons_blank {c d : Char} {a b : Text} (hc : isBlank c = true) (hd : isBlank d = true)
    (h : Respaced (d :: a) b) : Respaced (c :: d :: a) b := by
  generalize hda : d :: a = whole at h
  cases h with
  | nil => cases hda
  | keep e h =>
      cases hda
      exact anew (v := [c, d]) (w := [d]) (by simp [hc, hd]) (by simp [hd]) (by simp) (by simp)
        (by simp) h
  | @anew v w _ _ hv hw hne hne' hspace h =>
      rw [← List.cons_append]
      refine anew (v := c :: v) ?_ hw (by simp) hne' ?_ h
      · simpa [hc] using hv
      · cases v with
        | nil => exact absurd rfl hne
        | cons => simp

/-- A respaced text can be cut where the cut does not fall inside white space. -/
theorem cut {a b t : Text} (h : Respaced (a ++ b) t)
    (hcut : ∀ c ∈ a.getLast?, ∀ d ∈ b.head?, isBlank c = true → isBlank d = false) :
    ∃ a' b', t = a' ++ b' ∧ Respaced a a' ∧ Respaced b b' := by
  generalize hab : a ++ b = whole at h
  induction h generalizing a with
  | nil =>
      obtain ⟨rfl, rfl⟩ := List.append_eq_nil_iff.mp hab
      exact ⟨[], [], rfl, nil, nil⟩
  | @keep e x y h ih =>
      cases a with
      | nil =>
          obtain rfl : b = e :: x := hab
          exact ⟨[], _, rfl, nil, keep e h⟩
      | cons e' a =>
          obtain ⟨rfl, hrest⟩ : e' = e ∧ a ++ b = x := by simpa using hab
          obtain ⟨a', b', rfl, ha, hb⟩ := ih (a := a) (fun c hc d hd => hcut c (by
            cases a with
            | nil => cases hc
            | cons => simpa using hc) d hd) hrest
          exact ⟨e' :: a', b', rfl, keep e' ha, hb⟩
  | @anew v w x y hv hw hne hne' hspace h ih =>
      rcases List.append_eq_append_iff.mp hab with ⟨l, rfl, rfl⟩ | ⟨l, rfl, hx⟩
      · -- The cut lies inside the run, so it is at one of the run's ends.
        rcases List.eq_nil_or_concat a with rfl | ⟨front, c, rfl⟩
        · exact ⟨[], _, rfl, nil, anew hv hw hne hne' hspace h⟩
        · cases l with
          | nil =>
              simp only [List.append_nil] at hv hne hspace
              exact ⟨w, y, rfl, by simpa using anew hv hw hne hne' hspace nil, by simpa using h⟩
          | cons d l =>
              have hc : isBlank c = true := hv c (by simp)
              have hd : isBlank d = true := hv d (by simp)
              have := hcut c (by simp) d (by simp) hc
              rw [hd] at this
              cases this
      · obtain ⟨a', b', rfl, ha, hb⟩ := ih (a := l) (fun c hc d hd => hcut c (by
          cases l with
          | nil => cases hc
          | cons => simpa [List.getLast?_append] using hc) d hd) hx.symm
        exact ⟨w ++ a', b', by simp, anew hv hw hne hne' hspace ha, hb⟩

/-- Characters in front that are not white space stay as they are. -/
theorem of_solid_append {a b t : Text} (h : Respaced (a ++ b) t)
    (ha : ∀ c ∈ a, isBlank c = false) : ∃ b', t = a ++ b' ∧ Respaced b b' := by
  induction a generalizing t with
  | nil => exact ⟨t, rfl, h⟩
  | cons c a ih =>
      rw [List.forall_mem_cons] at ha
      generalize hwhole : c :: a ++ b = whole at h
      cases h with
      | nil => cases hwhole
      | keep e h =>
          cases hwhole
          obtain ⟨b', rfl, hb⟩ := ih h ha.2
          exact ⟨b', rfl, hb⟩
      | @anew v w _ _ hv hw hne hne' hspace h =>
          cases v with
          | nil => exact absurd rfl hne
          | cons d v =>
              obtain ⟨rfl, _⟩ : c = d ∧ _ := by simpa using hwhole
              have hc := ha.1
              rw [hv c (by simp)] at hc
              cases hc

/-- A respaced text can be cut at a character that is not white space. -/
theorem cut_at {d : Char} {a b t : Text} (hd : isBlank d = false)
    (h : Respaced (a ++ d :: b) t) :
    ∃ a' b', t = a' ++ d :: b' ∧ Respaced a a' ∧ Respaced b b' := by
  obtain ⟨a', t, rfl, ha, ht⟩ := h.cut (b := d :: b) fun c _ e he _ => by
    cases he
    exact hd
  obtain ⟨b', rfl, hb⟩ := of_solid_append (a := [d]) ht (by simpa using hd)
  exact ⟨a', b', rfl, ha, hb⟩

/-- A single space stays as it is. -/
theorem of_space_cons {d : Char} {b t : Text} (hd : isBlank d = false)
    (h : Respaced (' ' :: d :: b) t) : ∃ b', t = ' ' :: b' ∧ Respaced (d :: b) b' := by
  generalize hwhole : ' ' :: d :: b = whole at h
  cases h with
  | nil => cases hwhole
  | keep e h =>
      cases hwhole
      exact ⟨_, rfl, h⟩
  | @anew v w _ _ hv hw hne hne' hspace h =>
      exfalso
      match v with
      | [] => exact hne rfl
      | [e] =>
          obtain ⟨rfl, _⟩ : ' ' = e ∧ _ := by simpa using hwhole
          exact hspace rfl
      | e :: f :: v =>
          obtain ⟨_, rfl, _⟩ : ' ' = e ∧ d = f ∧ _ := by simpa using hwhole
          rw [hv d (by simp)] at hd
          cases hd

end Respaced

theorem respaced_squeeze (text : Text) : Respaced text (squeeze text) := by
  induction text with
  | nil => exact .nil
  | cons c rest ih =>
      rw [squeeze]
      by_cases hc : isHorizontal c = true
      · rw [if_pos hc]
        by_cases hnext : (rest.head?.any isHorizontal) = true
        · rw [if_pos hnext]
          cases rest with
          | nil => cases hnext
          | cons d rest =>
              exact .cons_blank (isBlank_of_isHorizontal hc) (isBlank_of_isHorizontal hnext) ih
        · rw [if_neg hnext]
          by_cases hspace : c = ' '
          · exact hspace ▸ .keep ' ' ih
          · exact .anew (v := [c]) (w := [' ']) (by simpa using isBlank_of_isHorizontal hc)
              (by decide) (by simp) (by simp) (by simpa using hspace) ih
      · rw [if_neg hc]
        exact .keep c ih

/-! ## White space at the ends -/

/-- The second text is the first one respaced, where the white space at both ends may also come and
go. -/
def Reflowed (a b : Text) : Prop :=
  ∃ lead core trail lead' core' trail' : Text,
    a = lead ++ core ++ trail ∧ b = lead' ++ core' ++ trail' ∧
    (∀ c ∈ lead ++ trail, isBlank c = true) ∧ Respaced core core'

theorem Respaced.reflowed {a b : Text} (h : Respaced a b) : Reflowed a b :=
  ⟨[], a, [], [], b, [], by simp, by simp, by simp, h⟩

/-- A stretch that is bounded by characters that are not white space is still there, respaced. -/
theorem Reflowed.middle {before mid after t : Text} (h : Reflowed (before ++ mid ++ after) t)
    (hfirst : ∀ c ∈ mid.head?, isBlank c = false) (hlast : ∀ c ∈ mid.getLast?, isBlank c = false)
    (hne : mid ≠ []) : ∃ before' mid' after', t = before' ++ mid' ++ after' ∧ Respaced mid mid' := by
  obtain ⟨lead, core, trail, lead', core', trail', hsplit, rfl, hblank, hcore⟩ := h
  rw [List.forall_mem_append] at hblank
  obtain ⟨first, hhead⟩ : ∃ c, mid.head? = some c := by
    cases mid with
    | nil => exact absurd rfl hne
    | cons c mid => exact ⟨c, rfl⟩
  obtain ⟨last, hend⟩ : ∃ c, mid.getLast? = some c := by
    rw [List.getLast?_eq_some_getLast hne]
    exact ⟨_, rfl⟩
  -- The white space in front ends before `mid` starts.
  obtain ⟨front, rfl⟩ : ∃ front, before = lead ++ front := by
    rw [List.append_assoc, List.append_assoc] at hsplit
    rcases List.append_eq_append_iff.mp hsplit with ⟨l, hl, hrest⟩ | ⟨l, hl, _⟩
    · cases l with
      | nil => exact ⟨[], by simpa using hl.symm⟩
      | cons d l =>
          have hd : first = d := by
            have := congrArg List.head? hrest
            rw [List.head?_append, hhead] at this
            simpa using this
          have hd' := hblank.1 d (by simp [hl])
          rw [← hd, hfirst first hhead] at hd'
          cases hd'
    · exact ⟨l, hl⟩
  rw [List.append_assoc, List.append_assoc, List.append_assoc, List.append_cancel_left_eq,
    ← List.append_assoc] at hsplit
  -- The white space behind starts after `mid` ends.
  obtain ⟨back, rfl, rfl⟩ : ∃ back, core = front ++ mid ++ back ∧ after = back ++ trail := by
    rcases List.append_eq_append_iff.mp hsplit with ⟨l, hl, hrest⟩ | ⟨l, hl, hrest⟩
    · exact ⟨l, hl, hrest⟩
    · rcases List.eq_nil_or_concat l with rfl | ⟨l, d, rfl⟩
      · exact ⟨[], by simpa using hl.symm, by simpa using hrest.symm⟩
      · have hd : last = d := by
          have := congrArg List.getLast? hl
          rw [List.getLast?_append, hend] at this
          simpa using this
        have hd' := hblank.2 d (by simp [hrest])
        rw [← hd, hlast last hend] at hd'
        cases hd'
  rw [List.append_assoc] at hcore
  obtain ⟨front', t, rfl, _, ht⟩ := hcore.cut fun c _ d hd _ => by
    rw [List.head?_append, hhead] at hd
    cases hd
    exact hfirst first hhead
  obtain ⟨mid', back', rfl, hmid, _⟩ := ht.cut fun c hc d _ hblank => by
    rw [hlast c hc] at hblank
    cases hblank
  exact ⟨lead' ++ front', mid', back' ++ trail', by simp, hmid⟩

/-! ## Indentation -/

/-- Removes the white space at the start of every line, character by character. -/
def dropIndent : Bool → Text → Text
  | _, [] => []
  | atLineStart, c :: rest =>
      if c = '\n' then c :: dropIndent true rest
      else if atLineStart && isBlank c then dropIndent true rest
      else c :: dropIndent false rest

@[simp] theorem unlines_singleton (row : Text) : Text.unlines [row] = row := by
  simp [Text.unlines]

@[simp] theorem unlines_cons_cons (row next : Text) (rows : List Text) :
    Text.unlines (row :: next :: rows) = row ++ '\n' :: Text.unlines (next :: rows) := by
  simp [Text.unlines, List.intercalate, List.intersperse]

theorem exists_lines_eq_cons (text : Text) :
    ∃ first others, Text.lines text = first :: others := by
  unfold Text.lines
  cases text with
  | nil => exact ⟨[], [], rfl⟩
  | cons c rest =>
      rw [Text.splitAll]
      split
      · exact ⟨_, _, rfl⟩
      · cases Text.splitAll (· == '\n') rest with
        | nil => exact ⟨_, _, rfl⟩
        | cons => exact ⟨_, _, rfl⟩

@[simp] theorem lines_newline (rest : Text) : Text.lines ('\n' :: rest) = [] :: Text.lines rest := by
  simp [Text.lines, Text.splitAll]

theorem lines_cons {c : Char} (hc : c ≠ '\n') (rest : Text) :
    Text.lines (c :: rest) = Text.onFirst c (Text.lines rest) := by
  simp [Text.lines, Text.splitAll, hc]

@[simp] theorem unlines_lines (text : Text) : Text.unlines (Text.lines text) = text := by
  induction text with
  | nil => rfl
  | cons c rest ih =>
      obtain ⟨first, others, hlines⟩ := exists_lines_eq_cons rest
      by_cases hc : c = '\n'
      · subst hc
        rw [lines_newline, hlines, unlines_cons_cons, ← hlines, ih]
        rfl
      · rw [lines_cons hc, hlines, Text.onFirst]
        rw [hlines] at ih
        cases others with
        | nil => simpa using ih
        | cons => simpa using ih

theorem unindent_eq_dropIndent (atLineStart : Bool) (text : Text) :
    unindent atLineStart text = dropIndent atLineStart text := by
  induction text generalizing atLineStart with
  | nil => cases atLineStart <;> rfl
  | cons c rest ih =>
      obtain ⟨first, others, hlines⟩ := exists_lines_eq_cons rest
      have hopen : ∀ start, dropIndent start rest
          = Text.unlines ((if start then Text.trimLeft first else first)
            :: others.map Text.trimLeft) := by
        intro start
        rw [← ih, unindent, hlines]
      rw [dropIndent]
      split
      next hc =>
        subst hc
        rw [unindent, lines_newline, hlines, hopen]
        simp [Text.trimLeft]
      next hc =>
        rw [unindent, lines_cons hc, hlines, Text.onFirst, hopen, hopen]
        cases atLineStart with
        | false => cases others <;> simp
        | true =>
            by_cases hblank : isBlank c = true
            · simp [Text.trimLeft, hblank]
            · cases others <;> simp [Text.trimLeft, hblank]

/-- In the middle of a line only runs behind a line end are written anew; at the start of a line
white space in front goes. -/
theorem respaced_dropIndent (text : Text) :
    Respaced text (dropIndent false text) ∧
      ∃ lead core lead' core' : Text, text = lead ++ core ∧
        dropIndent true text = lead' ++ core' ∧ (∀ c ∈ lead, isBlank c = true) ∧
        (∀ c ∈ lead', isBlank c = true) ∧ Respaced core core' := by
  induction text with
  | nil => exact ⟨.nil, [], [], [], [], rfl, rfl, by simp, by simp, .nil⟩
  | cons c rest ih =>
      obtain ⟨hfalse, lead, core, lead', core', hrest, htrue, hlead, hlead', hcore⟩ := ih
      by_cases hc : c = '\n'
      · subst hc
        have hnewline : isBlank '\n' = true := by decide
        simp only [dropIndent, if_true]
        refine ⟨?_, '\n' :: lead, core, '\n' :: lead', core', by rw [hrest]; rfl,
          by rw [htrue]; rfl, by simpa [hnewline] using hlead, by simpa [hnewline] using hlead',
          hcore⟩
        rw [htrue, hrest, ← List.cons_append, ← List.cons_append]
        exact .anew (by simpa [hnewline] using hlead) (by simpa [hnewline] using hlead')
          (by simp) (by simp) (by simp) hcore
      · by_cases hblank : isBlank c = true
        · simp only [dropIndent, if_neg hc, Bool.false_and, Bool.true_and, hblank, if_true,
            Bool.false_eq_true, if_false]
          exact ⟨.keep c hfalse, c :: lead, core, lead', core', by rw [hrest]; rfl, htrue,
            by simpa [hblank] using hlead, hlead', hcore⟩
        · simp only [dropIndent, if_neg hc, Bool.false_and, Bool.true_and, hblank,
            Bool.false_eq_true, if_false]
          exact ⟨.keep c hfalse, [], c :: rest, [], c :: dropIndent false rest, rfl, rfl,
            by simp, by simp, .keep c hfalse⟩

theorem reflowed_unindent (atLineStart : Bool) (text : Text) :
    Reflowed text (unindent atLineStart text) := by
  rw [unindent_eq_dropIndent]
  obtain ⟨hfalse, lead, core, lead', core', hrest, htrue, hlead, _, hcore⟩ :=
    respaced_dropIndent text
  cases atLineStart with
  | false => exact hfalse.reflowed
  | true =>
      exact ⟨lead, core, [], lead', core', [], by simpa using hrest, by simpa using htrue,
        by simpa using hlead, hcore⟩

/-! ## Line ends and blank lines -/

theorem trimRight_eq_nil {text : Text} (h : Text.trimRight text = []) :
    ∀ c ∈ text, isBlank c = true := by
  obtain ⟨blanks, happend, hblanks⟩ := Text.trimRight_append text
  rw [h, List.nil_append] at happend
  subst happend
  simpa using hblanks

/-- Dropping blank lines and trailing blanks, line by line.  White space in front of the first line
that stays and behind the last one goes; between two of them a line end stays. -/
theorem reflowed_tidyRows (rows : List Text) :
    ∃ lead core trail : Text, Text.unlines rows = lead ++ core ++ trail ∧
      (∀ c ∈ lead ++ trail, isBlank c = true) ∧
      Respaced core
        (Text.unlines ((rows.map Text.trimRight).filter fun row => !row.isEmpty)) := by
  have hnewline : isBlank '\n' = true := by decide
  induction rows with
  | nil => exact ⟨[], [], [], rfl, by simp, .nil⟩
  | cons row rows ih =>
      obtain ⟨lead, core, trail, hrows, hblank, hcore⟩ := ih
      rw [List.forall_mem_append] at hblank
      -- The text of the rows, with the line end that precedes them if there are any.
      obtain ⟨gap, hunlines, hgap, hgap'⟩ : ∃ gap : Text,
          Text.unlines (row :: rows) = row ++ gap ++ Text.unlines rows ∧
          (∀ c ∈ gap, isBlank c = true) ∧ (rows ≠ [] → gap = ['\n']) := by
        cases rows with
        | nil => exact ⟨[], by simp [Text.unlines], by simp, fun h => absurd rfl h⟩
        | cons next rows => exact ⟨['\n'], by simp, by simpa using hnewline, fun _ => rfl⟩
      rw [hunlines, hrows]
      cases hkept : Text.trimRight row with
      | nil =>
          refine ⟨row ++ gap ++ lead, core, trail, by simp, ?_, by simpa [hkept] using hcore⟩
          simp only [List.forall_mem_append]
          exact ⟨⟨⟨trimRight_eq_nil hkept, hgap⟩, hblank.1⟩, hblank.2⟩
      | cons d kept =>
          obtain ⟨blanks, happend, hblanks⟩ := Text.trimRight_append row
          rw [hkept] at happend
          simp only [List.map_cons, hkept, List.isEmpty_cons, Bool.not_false,
            List.filter_cons_of_pos]
          subst happend
          cases hothers : (rows.map Text.trimRight).filter fun row => !row.isEmpty with
          | nil =>
              rw [hothers] at hcore
              obtain rfl : core = [] := hcore.eq_nil_iff.mpr rfl
              refine ⟨[], d :: kept, blanks ++ gap ++ lead ++ trail, by simp, ?_,
                by simpa using Respaced.refl _⟩
              simp only [List.nil_append, List.forall_mem_append]
              exact ⟨⟨⟨by simpa using hblanks, hgap⟩, hblank.1⟩, hblank.2⟩
          | cons next others =>
              have hrows : rows ≠ [] := by
                rintro rfl
                simp at hothers
              rw [hgap' hrows]
              rw [hothers] at hcore
              refine ⟨[], d :: kept ++ ((blanks ++ '\n' :: lead) ++ core), trail, by simp,
                by simpa using hblank.2, ?_⟩
              rw [unlines_cons_cons]
              refine (Respaced.refl _).append (.anew (w := ['\n']) ?_ (by simpa using hnewline)
                (by simp) (by simp) ?_ hcore)
              · simp only [List.forall_mem_append, List.forall_mem_cons]
                exact ⟨by simpa using hblanks, hnewline, hblank.1⟩
              · intro hspace
                have : '\n' ∈ [' '] := hspace ▸ by simp
                simp at this

theorem reflowed_tidyLines (text : Text) : Reflowed text (tidyLines text) := by
  obtain ⟨lead, core, trail, hrows, hblank, hcore⟩ := reflowed_tidyRows (Text.lines text)
  rw [unlines_lines] at hrows
  exact ⟨lead, core, trail, [], _, [], hrows, by simp [tidyLines], hblank, hcore⟩

end ShaderMarkup
