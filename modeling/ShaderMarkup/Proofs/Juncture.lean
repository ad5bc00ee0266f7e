import ShaderMarkup.Proofs.Boundary
import ShaderMarkup.Proofs.Placement

/-!
# Sources one behind the other

Statements are found by one scan over a source.  It keeps two things from what it has read: how many
braces are open, and the text since the last end of a statement.  `exists_statementChunks_eq` says
that nothing else is kept, whatever the two texts are: the open text goes in front of the first
chunk of the second text, which is scanned from the depth that the first one ends at.

Where the depth is zero and the open text is white space (`IsSettled`), the second text is scanned
as if it stood alone.  So the statements and the declarations of both are those of the first and,
moved by its length and by its lines, those of the second (`declarations_append_of_isSettled`).  A
closing brace too many does not count, so the first text may have more closing braces than opening
ones.
-/

namespace ShaderMarkup

/-! ## The scan -/

/-- The number of open braces behind a text, where a closing brace too many leaves it at zero. -/
def braceDepth (depth : Nat) (text : Text) : Nat :=
  text.foldl (fun depth c =>
    if c = '\x7b' then depth + 1 else if c = '\x7d' then depth - 1 else depth) depth

/-- The text behind the last end of a statement. -/
def openText (text : Text) : Text :=
  (statementChunks 0 text).getLastD []

/-- The scan of a text leaves nothing open but white space. -/
structure IsSettled (text : Text) : Prop where
  depth : braceDepth 0 text = 0
  blank : ∀ c ∈ openText text, isBlank c = true

theorem onFirst_concat (c : Char) (chunks : List Text) (last : Text) :
    ∃ chunks' last', Text.onFirst c (chunks ++ [last]) = chunks' ++ [last'] ∧
      ∀ others, others ≠ [] → Text.onFirst c (chunks ++ others.modifyHead (last ++ ·))
        = chunks' ++ others.modifyHead (last' ++ ·) := by
  cases chunks with
  | nil =>
      refine ⟨[], c :: last, rfl, fun others hne => ?_⟩
      obtain ⟨first, rest, rfl⟩ := List.exists_cons_of_ne_nil hne
      rfl
  | cons first chunks => exact ⟨(c :: first) :: chunks, last, rfl, fun others _ => rfl⟩

theorem statementChunks_ne_nil (depth : Nat) (text : Text) : statementChunks depth text ≠ [] := by
  obtain ⟨first, chunks, heq⟩ := exists_statementChunks_eq_cons depth text
  rw [heq]
  exact List.cons_ne_nil first chunks

/-- The scan of a text goes on behind it from the depth and the open text at its end. -/
theorem exists_statementChunks_eq (depth : Nat) (first : Text) :
    ∃ chunks last, statementChunks depth first = chunks ++ [last] ∧ ∀ second,
      statementChunks depth (first ++ second)
        = chunks ++ (statementChunks (braceDepth depth first) second).modifyHead (last ++ ·) := by
  induction first generalizing depth with
  | nil =>
      refine ⟨[], [], rfl, fun second => ?_⟩
      obtain ⟨chunk, chunks, heq⟩ := exists_statementChunks_eq_cons depth second
      simp [braceDepth, heq]
  | cons c first ih =>
      -- The character is put in front of the chunks behind it, or it ends a chunk of its own.
      have hjoin : ∀ next, ∃ chunks last,
          Text.onFirst c (statementChunks next first) = chunks ++ [last] ∧ ∀ second,
            Text.onFirst c (statementChunks next (first ++ second)) = chunks
              ++ (statementChunks (braceDepth next first) second).modifyHead (last ++ ·) := by
        intro next
        obtain ⟨chunks, last, hchunks, happend⟩ := ih next
        obtain ⟨chunks', last', hjoined, hothers⟩ := onFirst_concat c chunks last
        refine ⟨chunks', last', by rw [hchunks, hjoined], fun second => ?_⟩
        rw [happend, hothers _ (statementChunks_ne_nil _ second)]
      have hcut : ∃ chunks last, [c] :: statementChunks 0 first = chunks ++ [last] ∧ ∀ second,
          [c] :: statementChunks 0 (first ++ second) = chunks
            ++ (statementChunks (braceDepth 0 first) second).modifyHead (last ++ ·) := by
        obtain ⟨chunks, last, hchunks, happend⟩ := ih 0
        refine ⟨[c] :: chunks, last, by rw [hchunks, List.cons_append], fun second => ?_⟩
        rw [happend, List.cons_append]
      simp only [List.cons_append, statementChunks, braceDepth, List.foldl_cons]
      by_cases hopen : c = '\x7b'
      · simp only [if_pos hopen]
        exact hjoin (depth + 1)
      · simp only [if_neg hopen]
        by_cases hclose : c = '\x7d'
        · simp only [if_pos hclose]
          by_cases hzero : depth - 1 = 0
          · simp only [hzero, if_true]
            exact hcut
          · simp only [if_neg hzero]
            exact hjoin (depth - 1)
        · simp only [if_neg hclose]
          by_cases hstop : c = ';' ∧ depth = 0
          · obtain ⟨hmark, rfl⟩ := hstop
            simp only [and_true, if_pos hmark]
            exact hcut
          · simp only [if_neg hstop]
            exact hjoin depth

/-! ## Statements -/

/-- The same statement further back. -/
def Statement.shifted (offset : Nat) (statement : Statement) : Statement :=
  { statement with start := offset + statement.start }

theorem statementsFrom_add (shift offset : Nat) (chunks : List Text) :
    statementsFrom (shift + offset) chunks
      = (statementsFrom offset chunks).map (·.shifted shift) := by
  induction chunks generalizing offset with
  | nil => rfl
  | cons chunk chunks ih =>
      rw [statementsFrom, statementsFrom, Nat.add_assoc, ih]
      split
      · rfl
      · rw [List.map_cons, Statement.shifted, Nat.add_assoc]

/-- White space in front of a chunk moves it. -/
theorem statementsFrom_blank_append {gap : Text} (hgap : ∀ c ∈ gap, isBlank c = true)
    (offset : Nat) (chunk : Text) (chunks : List Text) :
    statementsFrom offset ((gap ++ chunk) :: chunks)
      = statementsFrom (offset + gap.length) (chunk :: chunks) := by
  have htrim : Text.trimLeft (gap ++ chunk) = Text.trimLeft chunk :=
    List.dropWhile_append_of_pos hgap
  have hle : (Text.trimLeft chunk).length ≤ chunk.length :=
    (List.dropWhile_suffix isBlank).length_le
  have hstart : (gap ++ chunk).length - (Text.trimLeft chunk).length
      = gap.length + (chunk.length - (Text.trimLeft chunk).length) := by
    rw [List.length_append]
    omega
  rw [statementsFrom, statementsFrom, htrim, hstart, List.length_append, ← Nat.add_assoc,
    ← Nat.add_assoc]

theorem statementsFrom_blank {gap : Text} (hgap : ∀ c ∈ gap, isBlank c = true) (offset : Nat) :
    statementsFrom offset [gap] = [] := by
  have htrim : Text.trimLeft gap = [] := List.dropWhile_eq_nil_iff.mpr hgap
  simp [statementsFrom, htrim]

/-- A statement starts in the text that it is found in. -/
theorem start_le_of_mem_statementsFrom {offset : Nat} {chunks : List Text} {statement : Statement}
    (h : statement ∈ statementsFrom offset chunks) :
    statement.start ≤ offset + chunks.flatten.length := by
  induction chunks generalizing offset with
  | nil => cases h
  | cons chunk chunks ih =>
      rw [statementsFrom] at h
      rw [List.flatten_cons, List.length_append]
      split at h
      · have := ih h
        omega
      · rcases List.mem_cons.mp h with rfl | h
        · dsimp only
          omega
        · have := ih h
          omega

theorem start_le_of_mem_statements {code : Text} {statement : Statement}
    (h : statement ∈ statements code) : statement.start ≤ code.length := by
  simpa using start_le_of_mem_statementsFrom h

/-- The statements behind a settled text are those of the second text, moved. -/
theorem IsSettled.statements_append {first : Text} (h : IsSettled first) (second : Text) :
    statements (first ++ second)
      = statements first ++ (statements second).map (·.shifted first.length) := by
  obtain ⟨chunks, last, hfirst, happend⟩ := exists_statementChunks_eq 0 first
  have hlast : ∀ c ∈ last, isBlank c = true := by
    have hblank := h.blank
    rwa [openText, hfirst, List.getLastD_concat] at hblank
  have hlength : first.length = chunks.flatten.length + last.length := by
    rw [← flatten_statementChunks 0 first, hfirst, List.flatten_append, List.length_append,
      List.flatten_singleton]
  obtain ⟨chunk, others, hsecond⟩ := exists_statementChunks_eq_cons 0 second
  unfold statements
  rw [happend, h.depth, hsecond, List.modifyHead_cons, hfirst, statementsFrom_append,
    statementsFrom_append, statementsFrom_blank hlast, List.append_nil,
    statementsFrom_blank_append hlast, Nat.zero_add, ← hlength, ← statementsFrom_add,
    Nat.add_zero]

/-! ## Declarations -/

theorem lineAt_append_of_le {first : Text} {offset : Nat} (h : offset ≤ first.length)
    (second : Text) : Text.lineAt (first ++ second) offset = Text.lineAt first offset := by
  rw [Text.lineAt, Text.lineAt, List.take_append_of_le_length h]

theorem lineAt_append_add (first second : Text) (offset : Nat) :
    Text.lineAt (first ++ second) (first.length + offset)
      = first.count '\n' + Text.lineAt second offset := by
  rw [Text.lineAt, Text.lineAt, List.take_length_add_append, List.count_append, Nat.add_assoc]

/-- The same declaration, with more lines and more declarations in front of it. -/
def Declaration.shifted (lines count : Nat) (declaration : Declaration) : Declaration :=
  declaration.movedTo (lines + declaration.line) (count + declaration.index)

/-- Declarations depend on the code only up to where their statements start. -/
theorem declarationsFrom_append_of_le {first : Text} {found : List Statement}
    (h : ∀ statement ∈ found, statement.start ≤ first.length) (second : Text) (index : Nat) :
    declarationsFrom (first ++ second) index found = declarationsFrom first index found := by
  induction found generalizing index with
  | nil => rfl
  | cons statement found ih =>
      rw [List.forall_mem_cons] at h
      rw [declarationsFrom, declarationsFrom, lineAt_append_of_le h.1, ih h.2, ih h.2]

theorem declarationsFrom_shifted (first second : Text) (count index : Nat)
    (found : List Statement) :
    declarationsFrom (first ++ second) (count + index) (found.map (·.shifted first.length))
      = (declarationsFrom second index found).map (·.shifted (first.count '\n') count) := by
  induction found generalizing index with
  | nil => rfl
  | cons statement found ih =>
      rw [List.map_cons, declarationsFrom, declarationsFrom, Statement.shifted]
      dsimp only
      split
      · exact ih index
      · rw [List.map_cons, Nat.add_assoc, ih, lineAt_append_add]
        rfl

/-- Behind a settled text, statements and declarations are found as in the second text alone: the
statements are moved by the length of the first text, the declarations by its lines, and they are
counted on behind its declarations. -/
theorem declarations_append_of_isSettled {first : Text} (h : IsSettled first) (second : Text) :
    statements (first ++ second)
        = statements first ++ (statements second).map (·.shifted first.length) ∧
      declarations (first ++ second)
        = declarations first ++ (declarations second).map
            (·.shifted (first.count '\n') (declarations first).length) := by
  refine ⟨h.statements_append second, ?_⟩
  have hfirst : declarationsFrom (first ++ second) 0 (statements first) = declarations first :=
    declarationsFrom_append_of_le (fun _ => start_le_of_mem_statements) second 0
  unfold declarations at hfirst ⊢
  rw [h.statements_append, declarationsFrom_append, hfirst, Nat.zero_add]
  exact congrArg _ (declarationsFrom_shifted first second _ 0 _)

/-- A closing brace too many, a function and a declaration with an em space behind it. -/
def strayBraceCode : Text :=
  "\x7d\nfn f() \x7b return; \x7d\n@sampler var a: sampler;\u2003\n".toList

theorem declarations_append_of_isSettled_strayBrace :
    IsSettled strayBraceCode ∧
      declarations (strayBraceCode ++ "\n@ref(n.r) var b: sampler;".toList)
        = [⟨.sampler, "@sampler var a: sampler;".toList, 3, 0, [.sampler]⟩,
            ⟨.reference, "@ref(n.r) var b: sampler;".toList, 5, 1, [.reference]⟩] := by
  have hsettled : IsSettled strayBraceCode := ⟨by decide +kernel, by decide +kernel⟩
  refine ⟨hsettled, (declarations_append_of_isSettled hsettled _).2.trans ?_⟩
  decide +kernel

end ShaderMarkup
