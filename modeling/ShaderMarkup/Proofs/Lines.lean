import ShaderMarkup.Proofs.Search

/-!
# Declarations line by line

A source that holds one declaration on each line is compiled line by line.

* What stands behind an `@`, and which statements there are, is found in the lines one by one
  (`markNames_unlines`, `chunkTexts_unlines`).
* The pieces that emission works on are the lines (`Emits.unlines`), and tidying keeps the lines
  apart (`squeeze_unlines`, `tidyLines_unlines`).  So the emitted code is made of the plain forms of
  the lines (`emit_unlines`).
-/

namespace ShaderMarkup

/-! ## Lines -/

theorem mem_unlines {rows : List Text} {c : Char} (h : c ∈ Text.unlines rows) :
    c = '\n' ∨ ∃ row ∈ rows, c ∈ row := by
  induction rows with
  | nil => cases h
  | cons row rows ih =>
      cases rows with
      | nil => exact Or.inr ⟨row, List.mem_cons_self, by simpa using h⟩
      | cons next rows =>
          rw [unlines_cons_cons, List.mem_append, List.mem_cons] at h
          rcases h with h | h | h
          · exact Or.inr ⟨row, List.mem_cons_self, h⟩
          · exact Or.inl h
          · rcases ih h with h | ⟨other, hother, h⟩
            · exact Or.inl h
            · exact Or.inr ⟨other, List.mem_cons_of_mem row hother, h⟩

theorem lines_free {row : Text} (h : '\n' ∉ row) : Text.lines row = [row] := by
  induction row with
  | nil => rfl
  | cons c row ih =>
      rw [List.mem_cons, not_or] at h
      rw [lines_cons (Ne.symm h.1), ih h.2, Text.onFirst]

/-- Lines are read back. -/
theorem lines_unlines {row : Text} {rows : List Text} (h : ∀ other ∈ row :: rows, '\n' ∉ other) :
    Text.lines (Text.unlines (row :: rows)) = row :: rows := by
  induction rows generalizing row with
  | nil => rw [unlines_singleton, lines_free (h row List.mem_cons_self)]
  | cons next rows ih =>
      rw [List.forall_mem_cons] at h
      rw [unlines_cons_cons, lines_append_newline, lines_free h.1, ih h.2, List.singleton_append]

theorem markNames_unlines (rows : List Text) :
    markNames (Text.unlines rows) = rows.flatMap markNames := by
  induction rows with
  | nil => rfl
  | cons row rows ih =>
      cases rows with
      | nil => rw [unlines_singleton, List.flatMap_singleton]
      | cons next rows =>
          rw [unlines_cons_cons, markNames_append row (by simp; decide), markNames,
            if_neg (by decide), ih]
          rfl

/-! ## Statements -/

/-- The line is one statement: it ends with its only semicolon and does not start with white
space. -/
structure IsStatementLine (row : Text) : Prop where
  one_stop : ∃ body, row = body ++ [';'] ∧ ∀ c ∈ body, c ≠ '\x7b' ∧ c ≠ '\x7d' ∧ c ≠ ';'
  trimmed : Text.trim row = row

/-- A statement on a line of its own. -/
theorem IsStatementLine.chunkTexts_append {row : Text} (h : IsStatementLine row) (more : Text) :
    chunkTexts (statementChunks 0 (row ++ more)) = row :: chunkTexts (statementChunks 0 more) := by
  obtain ⟨⟨body, hrow, hfree⟩, htrim⟩ := h
  have hchunks : statementChunks 0 (row ++ more) = [row] ++ statementChunks 0 more := by
    rw [hrow, List.append_assoc]
    exact statementChunks_line hfree more
  have hne : row.isEmpty = false := by simp [hrow]
  rw [hchunks, ShaderMarkup.chunkTexts_append, chunkTexts, List.map_singleton, htrim,
    List.filter_cons_of_pos (by simp [hne]), List.filter_nil, List.singleton_append]

/-- The statements are the lines that are not empty. -/
theorem chunkTexts_unlines {rows : List Text} (h : ∀ row ∈ rows, row = [] ∨ IsStatementLine row) :
    chunkTexts (statementChunks 0 (Text.unlines rows)) = rows.filter (!·.isEmpty) := by
  have hblank : ∀ c ∈ ['\n'], isBlank c = true := by decide
  induction rows with
  | nil => rfl
  | cons row rows ih =>
      rw [List.forall_mem_cons] at h
      -- What stands behind the row starts with a line end, or the row is the last.
      obtain ⟨behind, hbehind, hrest⟩ : ∃ behind, Text.unlines (row :: rows) = row ++ behind ∧
          chunkTexts (statementChunks 0 behind) = rows.filter (!·.isEmpty) := by
        cases rows with
        | nil => exact ⟨[], by simp, rfl⟩
        | cons next rows =>
            refine ⟨['\n'] ++ Text.unlines (next :: rows), by simp, ?_⟩
            rw [chunkTexts_blank hblank, ih h.2]
      rw [hbehind]
      rcases h.1 with rfl | hrow
      · exact hrest
      · obtain ⟨body, hbody, -⟩ := hrow.one_stop
        rw [hrow.chunkTexts_append, hrest, List.filter_cons_of_pos (by simp [hbody])]

/-! ## Pieces -/

section Pieces

variable (kind : ShaderKind) (workgroup : Option Extent) (slotOf : Text → Option Slot)

/-- The plain forms of the pieces of a text are those of the second text. -/
def Emits (text plain : Text) : Prop :=
  ∃ pieces, (semicolonPieces text).mapM (plainPiece kind workgroup slotOf) = .ok pieces ∧
    pieces.flatten = plain

theorem plainPiece_nil : plainPiece kind workgroup slotOf [] = .ok [] :=
  rfl

variable {kind workgroup slotOf}

namespace Emits

theorem nil : Emits kind workgroup slotOf [] [] :=
  ⟨[[]], rfl, rfl⟩

/-- White space stays in front. -/
theorem blank_append {gap text plain : Text} (hgap : ∀ c ∈ gap, isBlank c = true)
    (h : Emits kind workgroup slotOf text plain) :
    Emits kind workgroup slotOf (gap ++ text) (gap ++ plain) := by
  obtain ⟨pieces, hpieces, rfl⟩ := h
  obtain ⟨first, others, htext, hgapText⟩ := semicolonPieces_free gap
    (fun hmem => absurd (hgap _ hmem) (by decide)) text
  rw [htext, mapM_eq_ok_iff] at hpieces
  cases hpieces with
  | @cons _ plain _ plains hfirst hothers =>
      refine ⟨(gap ++ plain) :: plains, ?_, by simp⟩
      rw [hgapText, mapM_eq_ok_iff]
      refine .cons ?_ hothers
      rw [plainPiece_blank_append hgap, hfirst]
      rfl

/-- A statement in front. -/
theorem statement_append {row plainRow text plain : Text} (hrow : IsStatementLine row)
    (hplain : plainPiece kind workgroup slotOf row = .ok plainRow)
    (h : Emits kind workgroup slotOf text plain) :
    Emits kind workgroup slotOf (row ++ text) (plainRow ++ plain) := by
  obtain ⟨pieces, hpieces, rfl⟩ := h
  obtain ⟨body, rfl, hfree⟩ := hrow.one_stop
  obtain ⟨first, others, hstop, hbody⟩ := semicolonPieces_free body
    (fun hmem => (hfree ';' hmem).2.2 rfl) (';' :: text)
  rw [semicolonPieces, if_pos rfl] at hstop
  cases hstop
  refine ⟨plainRow :: pieces, ?_, by simp⟩
  rw [List.append_assoc, List.singleton_append, hbody, mapM_eq_ok_iff]
  exact .cons hplain (mapM_eq_ok_iff.mp hpieces)

/-- The pieces are the lines. -/
theorem unlines {rows plains : List Text} (hrows : ∀ row ∈ rows, row = [] ∨ IsStatementLine row)
    (h : List.Forall₂ (fun row plain => plainPiece kind workgroup slotOf row = .ok plain)
      rows plains) :
    Emits kind workgroup slotOf (Text.unlines rows) (Text.unlines plains) := by
  have hblank : ∀ c ∈ ['\n'], isBlank c = true := by decide
  induction h with
  | nil => exact nil
  | @cons row plain rows plains hplain h ih =>
      rw [List.forall_mem_cons] at hrows
      obtain ⟨behind, plainBehind, hbehind, hplainBehind, hrest⟩ : ∃ behind plainBehind,
          Text.unlines (row :: rows) = row ++ behind ∧
          Text.unlines (plain :: plains) = plain ++ plainBehind ∧
          Emits kind workgroup slotOf behind plainBehind := by
        cases h with
        | nil => exact ⟨[], [], by simp, by simp, nil⟩
        | @cons next plainNext rows plains _ _ =>
            exact ⟨['\n'] ++ Text.unlines (next :: rows),
              ['\n'] ++ Text.unlines (plainNext :: plains), by simp, by simp,
              blank_append hblank (ih hrows.2)⟩
      rw [hbehind, hplainBehind]
      rcases hrows.1 with rfl | hrow
      · rw [plainPiece_nil] at hplain
        cases hplain
        exact hrest
      · exact statement_append hrow hplain hrest

end Emits

end Pieces

/-! ## Tidying -/

theorem squeeze_unlines (rows : List Text) :
    squeeze (Text.unlines rows) = Text.unlines (rows.map squeeze) := by
  induction rows with
  | nil => rfl
  | cons row rows ih =>
      cases rows with
      | nil => simp
      | cons next rows =>
          rw [unlines_cons_cons, squeeze_newline, ih]
          simp

theorem squeeze_append {left right : Text}
    (h : ∀ c ∈ left.getLast?, ∀ d ∈ right.head?, isHorizontal c = true → isHorizontal d = false) :
    squeeze (left ++ right) = squeeze left ++ squeeze right := by
  induction left with
  | nil => rfl
  | cons c left ih =>
      cases left with
      | nil =>
          have hhead : isHorizontal c = true → right.head?.any isHorizontal = false := by
            intro hc
            rw [Option.any_eq_false]
            exact fun d hd => by simp [h c rfl d hd hc]
          rw [List.singleton_append, squeeze, squeeze]
          split
          next hc => simp [hhead hc, squeeze]
          next => rfl
      | cons d left =>
          have hrest := ih (by simpa using h)
          have hcons : ∀ rest, squeeze (c :: rest) = if isHorizontal c then
              if rest.head?.any isHorizontal then squeeze rest else ' ' :: squeeze rest
              else c :: squeeze rest := fun rest => by rw [squeeze]
          have hhead : (d :: left ++ right).head? = (d :: left).head? := rfl
          rw [List.cons_append, hcons, hcons, hrest, hhead]
          split
          · split <;> rfl
          · rfl

theorem isHorizontal_eq_false {c : Char} (h : isBlank c = false) : isHorizontal c = false := by
  rw [← Bool.not_eq_true]
  intro hc
  rw [isBlank_of_isHorizontal hc] at h
  cases h

/-- A word stays as it is. -/
theorem squeeze_word_append {word : Text} (h : ∀ c ∈ word, isBlank c = false) (rest : Text) :
    squeeze (word ++ rest) = word ++ squeeze rest := by
  induction word with
  | nil => rfl
  | cons c word ih =>
      rw [List.forall_mem_cons] at h
      rw [List.cons_append, squeeze, if_neg (by simp [isHorizontal_eq_false h.1]), ih h.2,
        List.cons_append]

/-- A single space stays as it is. -/
theorem squeeze_space_cons {rest : Text} (h : ∀ c ∈ rest.head?, isBlank c = false) :
    squeeze (' ' :: rest) = ' ' :: squeeze rest := by
  have hhead : rest.head?.any isHorizontal = false := by
    rw [Option.any_eq_false]
    exact fun c hc => by simp [isHorizontal_eq_false (h c hc)]
  rw [squeeze, if_pos (by decide), hhead, if_neg (by decide)]

theorem squeeze_space_word_append {word : Text} (h : ∀ c ∈ word, isBlank c = false)
    (hne : word ≠ []) (rest : Text) :
    squeeze (' ' :: (word ++ rest)) = ' ' :: (word ++ squeeze rest) := by
  rw [squeeze_space_cons, squeeze_word_append h]
  intro c hc
  rw [List.head?_append_of_ne_nil _ hne] at hc
  exact h c (List.mem_of_head? hc)

theorem not_mem_squeeze {text : Text} {c : Char} (hc : c ≠ ' ') (h : c ∉ text) :
    c ∉ squeeze text := by
  induction text with
  | nil => exact h
  | cons d rest ih =>
      rw [List.mem_cons, not_or] at h
      rw [squeeze]
      split
      · split
        · exact ih h.2
        · simp [hc, ih h.2]
      · simp [h.1, ih h.2]

theorem unindent_unlines {rows : List Text} (h : ∀ row ∈ rows, '\n' ∉ row) :
    unindent true (Text.unlines rows) = Text.unlines (rows.map Text.trimLeft) := by
  cases rows with
  | nil => rfl
  | cons row rows =>
      rw [unindent, lines_unlines h]
      rfl

theorem tidyLines_unlines {rows : List Text} (h : ∀ row ∈ rows, '\n' ∉ row) :
    tidyLines (Text.unlines rows)
      = Text.unlines ((rows.map Text.trimRight).filter (!·.isEmpty)) := by
  cases rows with
  | nil => rfl
  | cons row rows => rw [tidyLines, lines_unlines h]

/-- The line as it is emitted. -/
def tidied (row : Text) : Text :=
  Text.trim (squeeze row)

/-- The code that is emitted is made of the plain forms of the lines. -/
theorem emit_unlines {rows plains : List Text} {resources : List Resource} {kind : ShaderKind}
    {entry : Option EntryPoint} (hrows : ∀ row ∈ rows, row = [] ∨ IsStatementLine row)
    (hplains : ∀ plain ∈ plains, '\n' ∉ plain)
    (h : List.Forall₂ (fun row plain => plainPiece kind (entry.bind EntryPoint.workgroup?)
      (slotNamed? resources) row = .ok plain) rows plains) :
    emit (Text.unlines rows) resources kind entry
      = .ok (Text.unlines ((plains.map tidied).filter (!·.isEmpty))) := by
  have hbrace : '\x7b' ∉ Text.unlines rows := by
    intro hmem
    rcases mem_unlines hmem with h | ⟨row, hrow, hmem⟩
    · cases h
    · rcases hrows row hrow with rfl | hstatement
      · cases hmem
      · obtain ⟨body, rfl, hfree⟩ := hstatement.one_stop
        rcases List.mem_append.mp hmem with hmem | hmem
        · exact (hfree _ hmem).1 rfl
        · simp at hmem
  obtain ⟨pieces, hpieces, hflatten⟩ := Emits.unlines hrows h
  have hsqueezed : ∀ row ∈ plains.map squeeze, '\n' ∉ row := by
    intro row hrow
    obtain ⟨plain, hplain, rfl⟩ := List.mem_map.mp hrow
    exact not_mem_squeeze (by decide) (hplains plain hplain)
  have htrimmed : ∀ row ∈ (plains.map squeeze).map Text.trimLeft, '\n' ∉ row := by
    intro row hrow hmem
    obtain ⟨squeezed, hmapped, rfl⟩ := List.mem_map.mp hrow
    exact hsqueezed squeezed hmapped ((List.dropWhile_suffix _).subset hmem)
  rw [emit_eq, regions_free hbrace, plainRegions_openRegion, plainOpen, hpieces, bind_ok, hflatten,
    squeeze_unlines]
  show Except.ok (tidyLines (unindent true _)) = _
  rw [unindent_unlines hsqueezed, tidyLines_unlines htrimmed, List.map_map, List.map_map]
  rfl

end ShaderMarkup
