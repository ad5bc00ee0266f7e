import ShaderMarkup.Proofs.Juncture
import ShaderMarkup.Proofs.Range

/-!
# Statements as ranges

`statements` cuts a code behind every end of a statement and trims the chunks.  `IsSplitting` says
what comes out, in terms of places in the code:

* the statements are ranges of the code in order, without white space at their ends, and every other
  character lies in one of them;
* a statement starts outside braces, and where `EndsAt` holds, at a semicolon outside braces or at
  the brace behind which none is open, it has its last character;
* a statement goes on to such an end, unless nothing but white space follows it.

The chunks come from `exists_chunk`, one at a time: the first one holds an end only as its last
character, and the cut goes on behind it from depth zero.  What trimming leaves of a chunk comes
from `exists_trimmed`.  The three conditions leave no choice, so a code has only one splitting
(`IsSplitting.eq`).
-/

namespace ShaderMarkup

/-- Where a statement stops. -/
def Statement.stop (statement : Statement) : Nat :=
  statement.start + statement.text.length

/-! ## Ends of statements -/

/-- A statement ends behind the place: a semicolon stands there outside braces, or a closing brace
behind which none is open.  The depth is the one in front of the code. -/
def EndsAt (depth : Nat) (code : Text) (place : Nat) : Prop :=
  code[place]? = some ';' ∧ braceDepth depth (code.take place) = 0 ∨
    code[place]? = some '\x7d' ∧ braceDepth depth (code.take (place + 1)) = 0

section Ends

variable {depth place : Nat} {c : Char} {text : Text}

theorem braceDepth_append (depth : Nat) (front back : Text) :
    braceDepth depth (front ++ back) = braceDepth (braceDepth depth front) back :=
  List.foldl_append

theorem braceDepth_blank (hblank : ∀ c ∈ text, isBlank c = true) (depth : Nat) :
    braceDepth depth text = depth := by
  induction text with
  | nil => rfl
  | cons c text ih =>
      rw [List.forall_mem_cons] at hblank
      rw [braceDepth, List.foldl_cons, if_neg (ne_of_isBlank hblank.1 (by decide)),
        if_neg (ne_of_isBlank hblank.1 (by decide))]
      exact ih hblank.2

theorem endsAt_cons_zero :
    EndsAt depth (c :: text) 0 ↔ c = ';' ∧ depth = 0 ∨ c = '\x7d' ∧ depth - 1 = 0 := by
  unfold EndsAt braceDepth
  rw [List.getElem?_cons_zero, Option.some.injEq, Option.some.injEq]
  refine or_congr Iff.rfl (and_congr_right ?_)
  rintro rfl
  rfl

theorem endsAt_append (depth : Nat) (front text : Text) (place : Nat) :
    EndsAt depth (front ++ text) (front.length + place)
      ↔ EndsAt (braceDepth depth front) text place := by
  unfold EndsAt
  rw [List.getElem?_append_right (Nat.le_add_right _ _), Nat.add_sub_cancel_left, Nat.add_assoc,
    List.take_length_add_append, List.take_length_add_append, braceDepth_append, braceDepth_append]

theorem endsAt_append_left {place : Nat} (h : place < text.length) (back : Text) :
    EndsAt depth (text ++ back) place ↔ EndsAt depth text place := by
  unfold EndsAt
  rw [List.getElem?_append_left h, List.take_append_of_le_length (Nat.le_of_lt h),
    List.take_append_of_le_length (Nat.succ_le_of_lt h)]

theorem EndsAt.lt_length (h : EndsAt depth text place) : place < text.length := by
  rcases h with ⟨h, -⟩ | ⟨h, -⟩ <;> exact (List.getElem?_eq_some_iff.mp h).1

/-- What ends a statement is no white space. -/
theorem EndsAt.isBlank_eq_false (h : EndsAt depth text place) (hc : text[place]? = some c) :
    isBlank c = false := by
  rcases h with ⟨h, -⟩ | ⟨h, -⟩ <;> rw [hc] at h <;> cases h <;> decide

/-- No brace is open behind an end. -/
theorem EndsAt.braceDepth_eq_zero (h : EndsAt depth text place) (hlast : place + 1 = text.length) :
    braceDepth depth text = 0 := by
  rcases h with ⟨hchar, hzero⟩ | ⟨-, hzero⟩
  · obtain ⟨hlt, hchar⟩ := List.getElem?_eq_some_iff.mp hchar
    have hsplit : text = text.take place ++ [';'] := by
      rw [← hchar, List.take_append_getElem hlt, hlast, List.take_length]
    rw [hsplit, braceDepth_append, hzero]
    rfl
  · rwa [hlast, List.take_length] at hzero

end Ends

/-! ## Chunks -/

theorem statementChunks_of_endsAt {depth : Nat} {c : Char} {text : Text}
    (h : EndsAt depth (c :: text) 0) :
    statementChunks depth (c :: text) = [c] :: statementChunks 0 text := by
  rw [statementChunks]
  rcases endsAt_cons_zero.mp h with ⟨rfl, rfl⟩ | ⟨rfl, hzero⟩
  · rfl
  · rw [if_neg (by decide), if_pos rfl, if_pos hzero]

theorem statementChunks_of_not_endsAt {depth : Nat} {c : Char} {text : Text}
    (h : ¬ EndsAt depth (c :: text) 0) :
    statementChunks depth (c :: text)
      = Text.onFirst c (statementChunks (braceDepth depth [c]) text) := by
  rw [endsAt_cons_zero, not_or] at h
  rw [statementChunks, braceDepth, List.foldl_cons, List.foldl_nil]
  split
  next => rfl
  next =>
    split
    next hclose => rw [if_neg fun hzero => h.2 ⟨hclose, hzero⟩]
    next => rw [if_neg h.1]

/-- The first chunk holds an end only as its last character.  Either it is the whole text, or it has
an end there, and the cut goes on behind it. -/
theorem exists_chunk (depth : Nat) (text : Text) :
    ∃ first others, statementChunks depth text = first :: others ∧
      (∀ place, EndsAt depth first place → place + 1 = first.length) ∧
      (others = [] ∧ text = first ∨
        ∃ last rest, last + 1 = first.length ∧ EndsAt depth first last ∧ text = first ++ rest ∧
          others = statementChunks 0 rest) := by
  induction text generalizing depth with
  | nil => exact ⟨[], [], rfl, fun place h => absurd h.lt_length (Nat.not_lt_zero _),
      Or.inl ⟨rfl, rfl⟩⟩
  | cons c text ih =>
      by_cases hend : EndsAt depth (c :: text) 0
      · refine ⟨[c], _, statementChunks_of_endsAt hend, fun place h => ?_, Or.inr ⟨0, text, rfl,
          endsAt_cons_zero.mpr (endsAt_cons_zero.mp hend), rfl, rfl⟩⟩
        have := h.lt_length
        rw [List.length_singleton] at this ⊢
        omega
      · obtain ⟨first, others, hchunks, honly, hrest⟩ := ih (braceDepth depth [c])
        have hsucc (place : Nat) :
            EndsAt depth (c :: first) (place + 1) ↔ EndsAt (braceDepth depth [c]) first place := by
          rw [Nat.add_comm]
          exact endsAt_append depth [c] first place
        refine ⟨c :: first, others, ?_, fun place h => ?_, ?_⟩
        · rw [statementChunks_of_not_endsAt hend, hchunks, Text.onFirst]
        · cases place with
          | zero => exact absurd (endsAt_cons_zero.mpr (endsAt_cons_zero.mp h)) hend
          | succ place => rw [List.length_cons, honly place ((hsucc place).mp h)]
        · rcases hrest with ⟨rfl, rfl⟩ | ⟨last, rest, hlast, hends, rfl, rfl⟩
          · exact Or.inl ⟨rfl, rfl⟩
          · refine Or.inr ⟨last + 1, rest, ?_, (hsucc last).mpr hends, rfl, rfl⟩
            rw [List.length_cons, hlast]

/-- A chunk of a code: no brace is open in front of it, it holds an end only as its last character,
and it has one there unless the code ends with it. -/
structure IsChunk (code front chunk back : Text) : Prop where
  append : front ++ (chunk ++ back) = code
  outside : braceDepth 0 front = 0
  end_last : ∀ place, EndsAt 0 chunk place → place + 1 = chunk.length
  ends : back = [] ∨ ∃ last, last + 1 = chunk.length ∧ EndsAt 0 chunk last

theorem isChunk_of_statementChunks_eq {code chunk : Text} {before after : List Text}
    (h : statementChunks 0 code = before ++ chunk :: after) :
    IsChunk code before.flatten chunk after.flatten := by
  induction before generalizing code with
  | nil =>
      obtain ⟨first, others, hchunks, honly, hrest⟩ := exists_chunk 0 code
      have hcode := flatten_statementChunks 0 code
      rw [h] at hcode
      rw [hchunks, List.nil_append, List.cons.injEq] at h
      obtain ⟨rfl, rfl⟩ := h
      refine ⟨hcode, rfl, honly, ?_⟩
      rcases hrest with ⟨rfl, -⟩ | ⟨last, -, hlast, hends, -⟩
      · exact Or.inl rfl
      · exact Or.inr ⟨last, hlast, hends⟩
  | cons front before ih =>
      obtain ⟨first, others, hchunks, -, hrest⟩ := exists_chunk 0 code
      rw [hchunks, List.cons_append, List.cons.injEq] at h
      obtain ⟨rfl, hothers⟩ := h
      rcases hrest with ⟨rfl, -⟩ | ⟨last, rest, hlast, hends, rfl, rfl⟩
      · simp at hothers
      · have hchunk := ih hothers
        refine ⟨?_, ?_, hchunk.end_last, hchunk.ends⟩
        · rw [List.flatten_cons, List.append_assoc, hchunk.append]
        · rw [List.flatten_cons, braceDepth_append, hends.braceDepth_eq_zero hlast, hchunk.outside]

/-- The ends of a code are those of its chunks. -/
theorem IsChunk.endsAt_iff {code front chunk back : Text} (h : IsChunk code front chunk back)
    {place : Nat} (hplace : place < chunk.length) :
    EndsAt 0 code (front.length + place) ↔ EndsAt 0 chunk place := by
  rw [← h.append, endsAt_append, h.outside, endsAt_append_left hplace]

/-! ## Trimmed chunks -/

/-- The text is white space, a core without white space at its ends, and white space again. -/
structure IsTrimmed (text lead core trail : Text) : Prop where
  append : lead ++ (core ++ trail) = text
  lead_blank : ∀ c ∈ lead, isBlank c = true
  trail_blank : ∀ c ∈ trail, isBlank c = true
  head_solid : ∀ c ∈ core.head?, isBlank c = false
  last_solid : ∀ c ∈ core.getLast?, isBlank c = false

theorem getLast?_trimRight (text : Text) :
    ∀ c ∈ (Text.trimRight text).getLast?, isBlank c = false := by
  induction text with
  | nil => simp [Text.trimRight]
  | cons c text ih =>
      rw [Text.trimRight]
      split
      next =>
        cases hc : isBlank c with
        | true => simp
        | false => simpa using hc
      next hne => rwa [List.getLast?_cons_of_ne_nil hne]

theorem head?_trim (text : Text) : ∀ c ∈ (Text.trim text).head?, isBlank c = false := by
  intro c hc
  have hhead : (Text.trimRight (Text.trimLeft text)).head? = some c := hc
  have hleft : (text.dropWhile isBlank).head? = some c := by
    obtain ⟨blanks, happend, -⟩ := Text.trimRight_append (Text.trimLeft text)
    have hsplit : text.dropWhile isBlank = _ := happend.symm
    rw [hsplit, List.head?_append, hhead, Option.some_or]
  have hsolid := List.head?_dropWhile_not isBlank text
  rw [hleft] at hsolid
  simpa using hsolid

/-- A chunk gives one statement, its core, or none if it is white space. -/
theorem exists_trimmed (chunk : Text) :
    ∃ lead core trail, IsTrimmed chunk lead core trail ∧ ∀ offset chunks,
      statementsFrom offset (chunk :: chunks)
        = (if core = [] then [] else [⟨core, offset + lead.length⟩])
          ++ statementsFrom (offset + chunk.length) chunks := by
  obtain ⟨trail, happend, htrail⟩ := Text.trimRight_append (Text.trimLeft chunk)
  have hchunk := Text.takeWhile_append_trimLeft chunk
  refine ⟨chunk.takeWhile isBlank, Text.trim chunk, trail, ⟨?_, fun c => List.mem_takeWhile_imp,
    List.all_eq_true.mp htrail, head?_trim chunk, getLast?_trimRight _⟩, fun offset chunks => ?_⟩
  · rw [Text.trim, happend, hchunk]
  · have hlead : chunk.length - (Text.trimLeft chunk).length
        = (chunk.takeWhile isBlank).length := by
      have hlength := congrArg List.length hchunk
      rw [List.length_append] at hlength
      omega
    rw [statementsFrom, hlead]
    split
    next hempty =>
      rw [if_pos (trim_eq_nil_iff.mpr (List.isEmpty_iff.mp hempty)), List.nil_append]
    next hempty =>
      rw [if_neg fun hnil => hempty (List.isEmpty_iff.mpr (trim_eq_nil_iff.mp hnil))]
      rfl

theorem IsTrimmed.length_eq {text lead core trail : Text} (h : IsTrimmed text lead core trail) :
    lead.length + (core.length + trail.length) = text.length := by
  rw [← h.append, List.length_append, List.length_append]

/-- What is no white space stands in the core. -/
theorem IsTrimmed.place_in_core {text lead core trail : Text} (h : IsTrimmed text lead core trail)
    {place : Nat} {c : Char} (hc : text[place]? = some c) (hsolid : isBlank c = false) :
    lead.length ≤ place ∧ place < lead.length + core.length := by
  have houtside {part : Text} {index : Nat} (hpart : ∀ d ∈ part, isBlank d = true)
      (hindex : part[index]? = some c) : False := by
    rw [hpart c (List.mem_of_getElem? hindex)] at hsolid
    cases hsolid
  rw [← h.append] at hc
  constructor
  · by_contra hlt
    rw [List.getElem?_append_left (by omega)] at hc
    exact houtside h.lead_blank hc
  · by_contra hge
    rw [List.getElem?_append_right (by omega), List.getElem?_append_right (by omega)] at hc
    exact houtside h.trail_blank hc

/-! ## Statements of chunks -/

section Chunks

variable {offset : Nat} {chunks : List Text} {statement : Statement}

/-- A statement is the core of a chunk, and it starts where the core does. -/
theorem exists_of_mem_statementsFrom (h : statement ∈ statementsFrom offset chunks) :
    ∃ before chunk after lead trail, chunks = before ++ chunk :: after ∧
      IsTrimmed chunk lead statement.text trail ∧
      statement.start = offset + (before.flatten.length + lead.length) := by
  induction chunks generalizing offset with
  | nil => cases h
  | cons chunk chunks ih =>
      obtain ⟨lead, core, trail, htrimmed, hstatements⟩ := exists_trimmed chunk
      rw [hstatements, List.mem_append] at h
      rcases h with h | h
      · split at h
        next => cases h
        next =>
          obtain rfl := List.mem_singleton.mp h
          exact ⟨[], chunk, chunks, lead, trail, rfl, htrimmed, by simp⟩
      · obtain ⟨before, found, after, lead', trail', rfl, htrimmed', hstart⟩ := ih h
        refine ⟨chunk :: before, found, after, lead', trail', rfl, htrimmed', ?_⟩
        rw [hstart, List.flatten_cons, List.length_append]
        omega

theorem inOrder_statementsFrom (offset : Nat) (chunks : List Text) :
    InOrder Statement.start Statement.stop (statementsFrom offset chunks) := by
  induction chunks generalizing offset with
  | nil => exact .nil
  | cons chunk chunks ih =>
      obtain ⟨lead, core, trail, htrimmed, hstatements⟩ := exists_trimmed chunk
      rw [hstatements]
      split
      next => exact ih _
      next hne =>
        refine .cons ?_ (fun next hnext => ?_) (ih _)
        · exact Nat.lt_add_of_pos_right (List.length_pos_iff.mpr hne)
        · obtain ⟨before, _, _, _, _, -, -, hstart⟩ := exists_of_mem_statementsFrom hnext
          have hlength := htrimmed.length_eq
          rw [hstart, Statement.stop]
          dsimp only
          omega

/-- What is no white space lies in a statement. -/
theorem exists_statement_at {place : Nat} {c : Char} (hc : chunks.flatten[place]? = some c)
    (hsolid : isBlank c = false) (offset : Nat) :
    ∃ statement ∈ statementsFrom offset chunks,
      statement.start ≤ offset + place ∧ offset + place < statement.stop := by
  induction chunks generalizing offset place with
  | nil => cases hc
  | cons chunk chunks ih =>
      obtain ⟨lead, core, trail, htrimmed, hstatements⟩ := exists_trimmed chunk
      rw [hstatements]
      by_cases hplace : place < chunk.length
      · rw [List.flatten_cons, List.getElem?_append_left hplace] at hc
        obtain ⟨hstart, hstop⟩ := htrimmed.place_in_core hc hsolid
        have hne : core ≠ [] := List.length_pos_iff.mp (by omega)
        refine ⟨⟨core, offset + lead.length⟩, ?_, ?_, ?_⟩
        · rw [if_neg hne]
          exact List.mem_cons_self
        · dsimp only
          omega
        · unfold Statement.stop
          dsimp only
          omega
      · rw [List.flatten_cons, List.getElem?_append_right (by omega)] at hc
        obtain ⟨statement, hstatement, hrange⟩ := ih hc (offset + chunk.length)
        refine ⟨statement, List.mem_append_right _ hstatement, ?_⟩
        omega

end Chunks

/-! ## Splittings -/

/-- The statements are those of the code, each at its range. -/
structure IsSplitting (code : Text) (found : List Statement) : Prop where
  -- No range is empty, so no text is.
  inOrder : InOrder Statement.start Statement.stop found
  text_eq : ∀ statement ∈ found,
    (code.take statement.stop).drop statement.start = statement.text
  head_solid : ∀ statement ∈ found, ∀ c ∈ statement.text.head?, isBlank c = false
  last_solid : ∀ statement ∈ found, ∀ c ∈ statement.text.getLast?, isBlank c = false
  covers : ∀ place c, code[place]? = some c → isBlank c = false →
    ∃! statement, statement ∈ found ∧ statement.start ≤ place ∧ place < statement.stop
  outside : ∀ statement ∈ found, braceDepth 0 (code.take statement.start) = 0
  end_last : ∀ statement ∈ found, ∀ place, statement.start ≤ place → place < statement.stop →
    EndsAt 0 code place → place + 1 = statement.stop
  ends : ∀ statement ∈ found, (∃ last, last + 1 = statement.stop ∧ EndsAt 0 code last) ∨
    ∀ c ∈ code.drop statement.stop, isBlank c = true

section Statements

variable {code : Text} {statement : Statement}

/-- A statement is the core of a chunk of the code. -/
theorem exists_of_mem_statements (h : statement ∈ statements code) :
    ∃ front chunk back lead trail, IsChunk code front chunk back ∧
      IsTrimmed chunk lead statement.text trail ∧
      code = (front ++ lead) ++ (statement.text ++ (trail ++ back)) ∧
      statement.start = (front ++ lead).length := by
  obtain ⟨before, chunk, after, lead, trail, hchunks, htrimmed, hstart⟩ :=
    exists_of_mem_statementsFrom h
  have hchunk := isChunk_of_statementChunks_eq hchunks
  refine ⟨before.flatten, chunk, after.flatten, lead, trail, hchunk, htrimmed, ?_, ?_⟩
  · rw [← hchunk.append, ← htrimmed.append]
    simp
  · rw [hstart, Nat.zero_add, List.length_append]

theorem text_eq_of_mem_statements (h : statement ∈ statements code) :
    (code.take statement.stop).drop statement.start = statement.text := by
  obtain ⟨front, -, back, lead, trail, -, -, hcode, hstart⟩ := exists_of_mem_statements h
  rw [List.drop_take, Statement.stop, Nat.add_sub_cancel_left, hstart, hcode, List.drop_left,
    List.take_left]

theorem outside_of_mem_statements (h : statement ∈ statements code) :
    braceDepth 0 (code.take statement.start) = 0 := by
  obtain ⟨front, chunk, back, lead, trail, hchunk, htrimmed, hcode, hstart⟩ :=
    exists_of_mem_statements h
  rw [hstart, hcode, List.take_left, braceDepth_append, hchunk.outside,
    braceDepth_blank htrimmed.lead_blank]

theorem end_last_of_mem_statements (h : statement ∈ statements code) {place : Nat}
    (hstart : statement.start ≤ place) (hstop : place < statement.stop)
    (hends : EndsAt 0 code place) : place + 1 = statement.stop := by
  obtain ⟨front, chunk, back, lead, trail, hchunk, htrimmed, -, hbegin⟩ :=
    exists_of_mem_statements h
  have hlength := htrimmed.length_eq
  rw [List.length_append] at hbegin
  unfold Statement.stop at hstop ⊢
  obtain ⟨index, rfl⟩ := Nat.exists_eq_add_of_le (show front.length ≤ place by omega)
  rw [hchunk.endsAt_iff (by omega)] at hends
  have := hchunk.end_last index hends
  omega

theorem ends_of_mem_statements (h : statement ∈ statements code) :
    (∃ last, last + 1 = statement.stop ∧ EndsAt 0 code last) ∨
      ∀ c ∈ code.drop statement.stop, isBlank c = true := by
  obtain ⟨front, chunk, back, lead, trail, hchunk, htrimmed, hcode, hstart⟩ :=
    exists_of_mem_statements h
  rcases hchunk.ends with rfl | ⟨last, hlast, hends⟩
  · right
    rw [Statement.stop, hstart, hcode, ← List.drop_drop, List.drop_left, List.drop_left,
      List.append_nil]
    exact htrimmed.trail_blank
  · left
    -- The end is no white space, so the core reaches up to it.
    obtain ⟨c, hc⟩ : ∃ c, chunk[last]? = some c :=
      ⟨_, List.getElem?_eq_getElem hends.lt_length⟩
    obtain ⟨-, hcore⟩ := htrimmed.place_in_core hc (hends.isBlank_eq_false hc)
    have hlength := htrimmed.length_eq
    refine ⟨front.length + last, ?_, (hchunk.endsAt_iff hends.lt_length).mpr hends⟩
    rw [Statement.stop, hstart, List.length_append]
    omega

end Statements

namespace IsSplitting

variable {code : Text} {found others : List Statement} {statement other : Statement}

/-- The characters of a statement are those of the code at its range. -/
theorem getElem?_text (h : IsSplitting code found) (hmem : statement ∈ found) {index : Nat}
    (hindex : index < statement.text.length) :
    statement.text[index]? = code[statement.start + index]? := by
  rw [← h.text_eq statement hmem, List.getElem?_drop]
  exact List.getElem?_take_of_lt (Nat.add_lt_add_left hindex statement.start)

theorem length_pos (h : IsSplitting code found) (hmem : statement ∈ found) :
    0 < statement.text.length :=
  Nat.pos_of_lt_add_right (h.inOrder.nonempty statement hmem)

theorem exists_first (h : IsSplitting code found) (hmem : statement ∈ found) :
    ∃ c, code[statement.start]? = some c ∧ isBlank c = false := by
  have hpos := h.length_pos hmem
  have hfirst := h.getElem?_text hmem hpos
  rw [List.getElem?_eq_getElem hpos, Nat.add_zero] at hfirst
  refine ⟨_, hfirst.symm, h.head_solid statement hmem _ ?_⟩
  rw [List.head?_eq_getElem?, List.getElem?_eq_getElem hpos]
  rfl

theorem exists_last (h : IsSplitting code found) (hmem : statement ∈ found) :
    ∃ last c, last + 1 = statement.stop ∧ code[last]? = some c ∧ isBlank c = false := by
  have hpos := h.length_pos hmem
  have hlt : statement.text.length - 1 < statement.text.length := Nat.sub_one_lt_of_lt hpos
  have hlast := h.getElem?_text hmem hlt
  rw [List.getElem?_eq_getElem hlt] at hlast
  refine ⟨_, _, ?_, hlast.symm, h.last_solid statement hmem _ ?_⟩
  · unfold Statement.stop
    omega
  · rw [List.getLast?_eq_getElem?, List.getElem?_eq_getElem hlt]
    rfl

/-- A statement does not stop before one of another splitting that starts with it. -/
theorem stop_le_of_start_eq (h : IsSplitting code found) (h' : IsSplitting code others)
    (hmem : statement ∈ found) (hother : other ∈ others) (hstart : statement.start = other.start) :
    other.stop ≤ statement.stop := by
  by_contra hlt
  have hnonempty := h.inOrder.nonempty statement hmem
  rcases h.ends statement hmem with ⟨last, hlast, hends⟩ | hblank
  · -- The other one would hold an end before its last character.
    have := h'.end_last other hother last (by omega) (by omega) hends
    omega
  · -- The other one would end with white space.
    obtain ⟨last, c, hlast, hc, hsolid⟩ := h'.exists_last hother
    have hbehind : (code.drop statement.stop)[last - statement.stop]? = some c := by
      rw [List.getElem?_drop, ← hc]
      congr 1
      omega
    rw [hblank c (List.mem_of_getElem? hbehind)] at hsolid
    cases hsolid

theorem eq_of_start_eq (h : IsSplitting code found) (h' : IsSplitting code others)
    (hmem : statement ∈ found) (hother : other ∈ others) (hstart : statement.start = other.start) :
    statement = other := by
  have hstop : statement.stop = other.stop :=
    Nat.le_antisymm (h'.stop_le_of_start_eq h hother hmem hstart.symm)
      (h.stop_le_of_start_eq h' hmem hother hstart)
  have htext : statement.text = other.text := by
    rw [← h.text_eq statement hmem, ← h'.text_eq other hother, hstart, hstop]
  cases statement
  cases other
  simp_all

/-- The start of a statement lies in a statement of any other splitting. -/
theorem exists_covering (h : IsSplitting code found) (h' : IsSplitting code others)
    (hmem : statement ∈ found) :
    ∃ other ∈ others, other.start ≤ statement.start ∧ statement.start < other.stop := by
  obtain ⟨c, hc, hsolid⟩ := h.exists_first hmem
  obtain ⟨other, ⟨hother, hrange⟩, -⟩ := h'.covers statement.start c hc hsolid
  exact ⟨other, hother, hrange⟩

/-- A code has only one splitting. -/
theorem eq (h : IsSplitting code found) (h' : IsSplitting code others) : found = others :=
  h.inOrder.eq_of_covered h'.inOrder (fun _ hmem => h.exists_covering h' hmem)
    (fun _ hother => h'.exists_covering h hother)
    (fun _ hmem _ hother hstart => h.eq_of_start_eq h' hmem hother hstart)

end IsSplitting

/-- The statements of a code are a splitting of it, and the only one. -/
theorem statements_split (code : Text) :
    IsSplitting code (statements code) ∧
      ∀ found, IsSplitting code found → found = statements code := by
  have hinOrder := inOrder_statementsFrom 0 (statementChunks 0 code)
  have hsplitting : IsSplitting code (statements code) := {
    inOrder := hinOrder
    text_eq := fun _ => text_eq_of_mem_statements
    head_solid := fun _ hmem => by
      obtain ⟨_, _, _, _, _, -, htrimmed, -⟩ := exists_of_mem_statements hmem
      exact htrimmed.head_solid
    last_solid := fun _ hmem => by
      obtain ⟨_, _, _, _, _, -, htrimmed, -⟩ := exists_of_mem_statements hmem
      exact htrimmed.last_solid
    covers := fun place c hc hsolid => by
      rw [← flatten_statementChunks 0 code] at hc
      obtain ⟨statement, hmem, hrange⟩ := exists_statement_at hc hsolid 0
      rw [Nat.zero_add] at hrange
      refine ⟨statement, ⟨hmem, hrange⟩, ?_⟩
      rintro other ⟨hother, hrange'⟩
      exact hinOrder.eq_of_contains hother hrange'.1 hrange'.2 hmem hrange.1 hrange.2
    outside := fun _ => outside_of_mem_statements
    end_last := fun _ hmem _ => end_last_of_mem_statements hmem
    ends := fun _ => ends_of_mem_statements }
  exact ⟨hsplitting, fun _ h => h.eq hsplitting⟩

-- A closing brace too many is a statement, and a semicolon within braces ends none.
example : (statements "\x7d a; \x7b b; \x7d c ".toList).map (fun found => (found.start, found.stop))
    = [(0, 1), (2, 4), (5, 11), (12, 13)] := by
  decide +kernel

end ShaderMarkup
