import ShaderMarkup.Proofs.Reading
import ShaderMarkup.Proofs.Segments
import ShaderMarkup.Resource.Collect
import ShaderMarkup.Entry.Call

/-!
# Where the texts come from

Reading a source means cutting ever smaller texts out of it: statements, decorators, arguments,
pieces between commas, words.  Each of them stands in the source as it is, character by character
(`<:+:`).  So a property of a piece, such as a run of too many digits, is a property of the source.
-/

namespace ShaderMarkup

/-! ## Trimming and words -/

theorem trimLeft_suffix (text : Text) : Text.trimLeft text <:+ text :=
  List.dropWhile_suffix _

theorem trimRight_isPrefix (text : Text) : Text.trimRight text <+: text := by
  obtain ⟨blanks, happend, _⟩ := Text.trimRight_append text
  exact ⟨blanks, happend⟩

theorem trim_isInfix (text : Text) : Text.trim text <:+: text :=
  (trimRight_isPrefix _).isInfix.trans (trimLeft_suffix text).isInfix

/-- Trimming takes away white space only. -/
theorem mem_trim {text : Text} {c : Char} (hc : c ∈ text) (hsolid : isBlank c = false) :
    c ∈ Text.trim text := by
  have hleft : c ∈ Text.trimLeft text := by
    rw [← Text.takeWhile_append_trimLeft text] at hc
    refine (List.mem_append.mp hc).resolve_left fun hblank => ?_
    rw [List.mem_takeWhile_imp hblank] at hsolid
    cases hsolid
  obtain ⟨blanks, happend, hblanks⟩ := Text.trimRight_append (Text.trimLeft text)
  rw [← happend] at hleft
  refine (List.mem_append.mp hleft).resolve_right fun hblank => ?_
  rw [List.all_eq_true.mp hblanks c hblank] at hsolid
  cases hsolid

/-- Where a text starts with no white space, its first word stands at its front, and the others are
words of what follows the first character. -/
theorem words_cons {c : Char} (hc : isBlank c = false) (rest : Text) :
    ∃ first others, Text.words (c :: rest) = first :: others ∧ first <+: c :: rest ∧
      ∀ word ∈ others, word ∈ Text.words rest := by
  induction rest generalizing c with
  | nil => exact ⟨[c], [], by simp [Text.words, hc], List.prefix_rfl, by simp⟩
  | cons next tail ih =>
      have hsingle : [c] <+: c :: next :: tail := ⟨next :: tail, rfl⟩
      have hstep : Text.words (c :: next :: tail)
          = match Text.words (next :: tail) with
            | first :: others =>
                if isBlank next then [c] :: first :: others else (c :: first) :: others
            | [] => [[c]] := by
        rw [Text.words.eq_def]
        cases hwords : Text.words (next :: tail) <;> simp [hc, hwords]
      rw [hstep]
      cases hnext : isBlank next with
      | true =>
          cases Text.words (next :: tail) with
          | nil => exact ⟨[c], [], rfl, hsingle, by simp⟩
          | cons first others => exact ⟨[c], first :: others, rfl, hsingle, fun _ h => h⟩
      | false =>
          obtain ⟨first, others, heq, hstart, _⟩ := ih hnext
          rw [heq]
          exact ⟨c :: first, others, rfl, by simpa using hstart,
            fun _ h => List.mem_cons_of_mem _ h⟩

theorem words_isInfix {text word : Text} (h : word ∈ Text.words text) : word <:+: text := by
  induction text with
  | nil => cases h
  | cons c rest ih =>
      cases hc : isBlank c with
      | true =>
          rw [Text.words.eq_def] at h
          exact List.infix_cons (ih (by simpa [hc] using h))
      | false =>
          obtain ⟨first, others, heq, hfirst, hothers⟩ := words_cons hc rest
          rw [heq] at h
          rcases List.mem_cons.mp h with rfl | h
          · exact hfirst.isInfix
          · exact List.infix_cons (ih (hothers word h))

/-- A text without a character stands on one side of that character. -/
theorem infix_or_infix_of_not_mem {part left right : Text} {c : Char}
    (h : part <:+: left ++ c :: right) (hc : c ∉ part) : part <:+: left ∨ part <:+: right := by
  rcases List.infix_append_iff.mp h with h | h | ⟨front, back, rfl, hfront, hback⟩
  · exact Or.inl h
  · rcases List.infix_cons_iff.mp h with h | h
    · cases part with
      | nil => exact Or.inl (List.nil_infix)
      | cons d part => exact absurd (by simp [(List.cons_prefix_cons.mp h).1]) hc
    · exact Or.inr h
  · cases back with
    | nil => exact Or.inl (by simpa using hfront.isInfix)
    | cons d back => exact absurd (by simp [(List.cons_prefix_cons.mp hback).1]) hc

/-- What stands in a text after its white space was collapsed, and holds none, stood there before. -/
theorem infix_of_infix_collapse {part text : Text} (h : part <:+: Text.collapse text)
    (hsolid : ∀ c ∈ part, isBlank c = false) : part <:+: text := by
  have hspace : ' ' ∉ part := fun hmem => absurd (hsolid ' ' hmem) (by decide)
  suffices hword : ∀ rows : List Text, part <:+: [' '].intercalate rows →
      part = [] ∨ ∃ row ∈ rows, part <:+: row by
    rcases hword _ h with rfl | ⟨word, hmem, hword⟩
    · exact List.nil_infix
    · exact hword.trans (words_isInfix hmem)
  intro rows hrows
  induction rows with
  | nil => exact Or.inl (by simpa using hrows)
  | cons row rows ih =>
      cases rows with
      | nil => exact Or.inr ⟨row, by simp, by simpa using hrows⟩
      | cons next rows =>
          have hsplit : [' '].intercalate (row :: next :: rows)
              = row ++ ' ' :: [' '].intercalate (next :: rows) := by
            simp [List.intercalate, List.intersperse]
          rw [hsplit] at hrows
          rcases infix_or_infix_of_not_mem hrows hspace with hrow | hrest
          · exact Or.inr ⟨row, by simp, hrow⟩
          · rcases ih hrest with hnil | ⟨found, hfound, hpart⟩
            · exact Or.inl hnil
            · exact Or.inr ⟨found, List.mem_cons_of_mem _ hfound, hpart⟩

/-! ## Pieces at the top level -/

/-- The pieces stand between separators: the first one at the front of the text, the others behind
a separator, and a separator follows unless the text ends. -/
theorem topLevelPieces_places (opens closes separates : Char → Bool) (depth : Int) (text : Text) :
    ∃ first others, topLevelPieces opens closes separates depth text = first :: others ∧
      (∃ right, text = first ++ right ∧ ∀ c ∈ right.head?, separates c = true) ∧
      ∀ piece ∈ others, ∃ left right, text = left ++ piece ++ right ∧
        (∃ c ∈ left.getLast?, separates c = true) ∧ ∀ c ∈ right.head?, separates c = true := by
  induction text generalizing depth with
  | nil => exact ⟨[], [], rfl, ⟨[], rfl, by simp⟩, by simp⟩
  | cons c rest ih =>
      obtain ⟨first, others, heq, ⟨right, hfirst, hright⟩, hothers⟩ :=
        ih (depthAfter opens closes depth c)
      have hbehind : ∀ piece ∈ others, ∃ left right, c :: rest = left ++ piece ++ right ∧
          (∃ d ∈ left.getLast?, separates d = true) ∧ ∀ d ∈ right.head?, separates d = true := by
        intro piece hpiece
        obtain ⟨left, right', hsplit, ⟨d, hd, hseparates⟩, hright'⟩ := hothers piece hpiece
        refine ⟨c :: left, right', by simp [hsplit], ⟨d, ?_, hseparates⟩, hright'⟩
        rw [List.getLast?_cons, Option.mem_def.mp hd]
        rfl
      rw [topLevelPieces, heq]
      split
      next hseparates =>
        have hc : separates c = true := (Bool.and_eq_true_iff.mp hseparates).1
        refine ⟨[], _, rfl, ⟨c :: rest, rfl, by simp [hc]⟩, List.forall_mem_cons.mpr ⟨?_, hbehind⟩⟩
        exact ⟨[c], right, by simp [hfirst], ⟨c, rfl, hc⟩, hright⟩
      next => exact ⟨c :: first, others, rfl, ⟨right, by simp [hfirst], hright⟩, hbehind⟩

theorem exists_trim_eq (text : Text) :
    ∃ left right, text = left ++ Text.trim text ++ right ∧ (∀ c ∈ left, isBlank c = true) ∧
      ∀ c ∈ right, isBlank c = true := by
  obtain ⟨right, happend, hright⟩ := Text.trimRight_append (Text.trimLeft text)
  refine ⟨text.takeWhile isBlank, right, ?_, fun c hc => List.mem_takeWhile_imp hc,
    List.all_eq_true.mp hright⟩
  rw [List.append_assoc, Text.trim, happend, Text.takeWhile_append_trimLeft]

theorem mem_of_mem_dropEmptyLast {texts : List Text} {text : Text}
    (h : text ∈ dropEmptyLast texts) : text ∈ texts := by
  induction texts with
  | nil => cases h
  | cons first rest ih =>
      cases rest with
      | nil =>
          rw [dropEmptyLast] at h
          split at h
          · cases h
          · exact h
      | cons next rest =>
          rw [dropEmptyLast] at h
          · rcases List.mem_cons.mp h with rfl | h
            · exact List.mem_cons_self
            · exact List.mem_cons_of_mem _ (ih h)
          · simp

/-- A piece stands in the text where white space or a separator, if anything, is next to it. -/
theorem exists_of_mem_splitTopLevel {separators text piece : Text} {angle : Bool}
    (h : piece ∈ splitTopLevel separators angle text) :
    ∃ left right, text = left ++ piece ++ right ∧
      (∀ c ∈ left.getLast?, isBlank c = true ∨ c ∈ separators) ∧
      ∀ c ∈ right.head?, isBlank c = true ∨ c ∈ separators := by
  obtain ⟨whole, hwhole, rfl⟩ := List.mem_map.mp (mem_of_mem_dropEmptyLast h)
  obtain ⟨first, others, heq, hfirst, hothers⟩ := topLevelPieces_places
    (fun c => isOpening c || (angle && c == '<')) (fun c => isClosing c || (angle && c == '>'))
    (fun c => c ∈ separators) 0 text
  rw [heq] at hwhole
  obtain ⟨left, right, rfl, hleft, hright⟩ : ∃ left right, text = left ++ whole ++ right ∧
      (∀ c ∈ left.getLast?, c ∈ separators) ∧ ∀ c ∈ right.head?, c ∈ separators := by
    rcases List.mem_cons.mp hwhole with rfl | hwhole
    · obtain ⟨right, hsplit, hright⟩ := hfirst
      exact ⟨[], right, hsplit, by simp, by simpa using hright⟩
    · obtain ⟨left, right, hsplit, ⟨c, hc, hseparates⟩, hright⟩ := hothers whole hwhole
      refine ⟨left, right, hsplit, ?_, by simpa using hright⟩
      intro d hd
      cases Option.mem_unique hc hd
      simpa using hseparates
  obtain ⟨blanks, blanks', htrim, hblanks, hblanks'⟩ := exists_trim_eq whole
  refine ⟨left ++ blanks, blanks' ++ right, ?_, ?_, ?_⟩
  · conv_lhs => rw [htrim]
    simp
  · intro c hc
    rw [List.getLast?_append] at hc
    rcases Option.or_eq_some_iff.mp hc with hc | ⟨_, hc⟩
    · exact Or.inl (hblanks c (List.mem_of_getLast? hc))
    · exact Or.inr (hleft c hc)
  · intro c hc
    rw [List.head?_append] at hc
    rcases Option.or_eq_some_iff.mp hc with hc | ⟨_, hc⟩
    · exact Or.inl (hblanks' c (List.mem_of_head? hc))
    · exact Or.inr (hright c hc)

theorem splitTopLevel_isInfix {separators text piece : Text} {angle : Bool}
    (h : piece ∈ splitTopLevel separators angle text) : piece <:+: text := by
  obtain ⟨left, right, hsplit, _⟩ := exists_of_mem_splitTopLevel h
  exact ⟨left, right, hsplit.symm⟩

theorem mem_dropEmptyLast {texts : List Text} {text : Text} (h : text ∈ texts) (hne : text ≠ []) :
    text ∈ dropEmptyLast texts := by
  induction texts with
  | nil => cases h
  | cons first rest ih =>
      cases rest with
      | nil =>
          obtain rfl := List.mem_singleton.mp h
          rw [dropEmptyLast, if_neg (by simpa using hne)]
          exact h
      | cons next rest =>
          rw [dropEmptyLast]
          · rcases List.mem_cons.mp h with rfl | h
            · exact List.mem_cons_self
            · exact List.mem_cons_of_mem _ (ih h)
          · simp

theorem mem_flatten_topLevelPieces (opens closes separates : Char → Bool) (depth : Int) {text : Text}
    {c : Char} (hc : c ∈ text) (hinner : separates c = false) :
    c ∈ (topLevelPieces opens closes separates depth text).flatten := by
  induction text generalizing depth with
  | nil => cases hc
  | cons d text ih =>
      rw [topLevelPieces]
      split
      next hseparates =>
        rcases List.mem_cons.mp hc with rfl | hc
        · simp [hinner] at hseparates
        · simpa using ih _ hc
      next =>
        rw [Text.flatten_onFirst]
        rcases List.mem_cons.mp hc with rfl | hc
        · exact List.mem_cons_self
        · exact List.mem_cons_of_mem _ (ih _ hc)

/-- Cutting a text loses white space and separators, and nothing else. -/
theorem exists_mem_splitTopLevel {separators text : Text} (angle : Bool) {c : Char} (hc : c ∈ text)
    (hsolid : isBlank c = false) (hinner : c ∉ separators) :
    ∃ piece ∈ splitTopLevel separators angle text, c ∈ piece := by
  have hpieces := mem_flatten_topLevelPieces (fun c => isOpening c || (angle && c == '<'))
    (fun c => isClosing c || (angle && c == '>')) (fun c => c ∈ separators) 0 hc
    (decide_eq_false hinner)
  obtain ⟨piece, hpiece, hmem⟩ := List.mem_flatten.mp hpieces
  have htrimmed := mem_trim hmem hsolid
  exact ⟨Text.trim piece,
    mem_dropEmptyLast (List.mem_map_of_mem hpiece) (List.ne_nil_of_mem htrimmed), htrimmed⟩

/-! ## Decorators -/

namespace Decorator

/-- All that can be read: an `@` and a name, and behind them nothing that opens a bracket, or a gap
and a bracket that closes, or one that does not. -/
theorem read_cases {text rest : Text} {decorator : Decorator}
    (h : Decorator.read text = some (decorator, rest)) :
    ∃ name behind, text = '@' :: (name ++ behind) ∧ Reader.IsIdentifier name ∧
      (∀ c ∈ behind.head?, isWord c = false) ∧
      ((∀ c ∈ (behind.dropWhile isGap).head?, c ≠ '(') ∧ decorator = ⟨name, none, true⟩ ∧
          rest = behind ∨
        ∃ gap body, behind = gap ++ '(' :: body ∧ (∀ c ∈ gap, isGap c = true) ∧
          ((∃ width, closingBracket? ('(' :: body) = some width ∧
              decorator = ⟨name, some (body.take (width - 1)), true⟩ ∧ rest = body.drop width) ∨
            closingBracket? ('(' :: body) = none ∧ decorator = ⟨name, some body, false⟩ ∧
              rest = [])) := by
  unfold Decorator.read at h
  split at h
  next tail =>
    split at h
    next name behind hname =>
      obtain ⟨hidentifier, rfl, hword⟩ := Reader.identifier_eq_some_iff.mp hname
      refine ⟨name, behind, rfl, hidentifier, hword, ?_⟩
      unfold readArgument at h
      split at h
      next body hbody =>
        have hgap : behind = behind.takeWhile isGap ++ '(' :: body := by
          rw [← hbody, List.takeWhile_append_dropWhile]
        refine Or.inr ⟨_, body, hgap, fun c hc => List.mem_takeWhile_imp hc, ?_⟩
        split at h
        next width hwidth =>
          cases h
          exact Or.inl ⟨width, hwidth, rfl, rfl⟩
        next hopen =>
          cases h
          exact Or.inr ⟨hopen, rfl, rfl⟩
      next hbare =>
        cases h
        refine Or.inl ⟨fun c hc heq => ?_, rfl, rfl⟩
        obtain ⟨body, hbody⟩ := List.head?_eq_some_iff.mp hc
        exact hbare body (by rw [hbody, heq])
    next => cases h
  next => cases h

/-- A decorator is read off the front of a text, and its argument stands in what is read. -/
theorem exists_of_read {text rest : Text} {decorator : Decorator}
    (h : Decorator.read text = some (decorator, rest)) :
    ∃ written, written ≠ [] ∧ text = written ++ rest ∧
      ∀ argument ∈ decorator.argument, argument <:+: written := by
  obtain ⟨name, behind, rfl, -, -, ⟨-, rfl, rfl⟩ | ⟨gap, body, rfl, -, hbody⟩⟩ := read_cases h
  · exact ⟨'@' :: name, by simp, by simp, by simp⟩
  · rcases hbody with ⟨width, -, rfl, rfl⟩ | ⟨-, rfl, rfl⟩
    · have htake : body.take (width - 1) <+: body.take width :=
        List.take_prefix_take_left (Nat.sub_le width 1)
      refine ⟨('@' :: name ++ gap ++ ['(']) ++ body.take width, by simp, by simp, ?_⟩
      rintro argument hargument
      cases hargument
      exact List.infix_append_of_infix_right htake.isInfix
    · refine ⟨('@' :: name ++ gap ++ ['(']) ++ body, by simp, by simp, ?_⟩
      rintro argument hargument
      cases hargument
      exact List.infix_append_right

theorem advances_read : (anywhere Decorator.read).Advances := by
  intro before text decorator rest h
  obtain ⟨written, hne, hsplit, _⟩ := exists_of_read h
  exact ⟨written, hne, hsplit⟩

end Decorator

/-- The argument of a decorator stands in the text around it. -/
theorem calls_isInfix {text argument : Text} {call : Call} (h : call ∈ calls text)
    (hargument : argument ∈ call.value.argument) : argument <:+: text := by
  obtain ⟨left, written, right, rfl, _, hread, -⟩ :=
    exists_of_mem_searchAll Decorator.advances_read h
  obtain ⟨front, _, hsplit, hinside⟩ := Decorator.exists_of_read hread
  obtain rfl : written = front := List.append_cancel_right hsplit
  exact (hinside argument hargument).trans (List.infix_append' left written right)

theorem walkWithin_isInfix {depth : Nat} {text argument : Text} {call : Call}
    (h : call ∈ walkWithin depth text) (hargument : argument ∈ call.value.argument) :
    argument <:+: text := by
  induction depth generalizing text with
  | zero => cases h
  | succ depth ih =>
      rw [walkWithin, List.mem_flatMap] at h
      obtain ⟨outer, houter, h⟩ := h
      cases hinner : outer.value.argument with
      | none =>
          rw [hinner, List.mem_singleton] at h
          subst h
          exact calls_isInfix houter hargument
      | some inner =>
          rw [hinner] at h
          rcases List.mem_cons.mp h with rfl | h
          · exact calls_isInfix houter hargument
          · exact (ih h).trans (calls_isInfix houter hinner)

theorem findDecorator?_isInfix {text name argument : Text} {call : Call}
    (h : findDecorator? text name = some call) (hargument : argument ∈ call.value.argument) :
    argument <:+: text :=
  walkWithin_isInfix (List.mem_of_find?_eq_some h) hargument

theorem trimmedArgument_isInfix {text : Text} {decorator : Decorator}
    (h : ∀ argument ∈ decorator.argument, argument <:+: text) :
    decorator.trimmedArgument <:+: text := by
  unfold Decorator.trimmedArgument
  cases hargument : decorator.argument with
  | none => exact (trim_isInfix []).trans (List.nil_infix)
  | some argument => exact (trim_isInfix argument).trans (h argument hargument)

theorem filledArgument?_isInfix {text argument : Text} {name : String}
    (h : filledArgument? text name = some argument) : argument <:+: text := by
  unfold filledArgument? at h
  split at h
  next call hcall =>
    split at h
    next => cases h
    next => exact findDecorator?_isInfix hcall h
  next => cases h

theorem parameterDecorators_isInfix {kind : ResourceKind} {text argument : Text}
    {decorator : Decorator} (h : decorator ∈ parameterDecorators kind text)
    (hargument : argument ∈ decorator.argument) : argument <:+: text := by
  unfold parameterDecorators at h
  simp only [List.mem_flatMap, List.mem_filter, List.mem_map] at h
  obtain ⟨outer, ⟨houter, _⟩, ⟨child, hchild, rfl⟩, _⟩ := h
  unfold Decorator.children at hchild
  cases hinner : outer.value.argument with
  | none =>
      rw [hinner] at hchild
      cases hchild
  | some inner =>
      rw [hinner] at hchild
      exact (calls_isInfix hchild hargument).trans (calls_isInfix houter hinner)

/-- The argument of the first decorator at or behind an offset stands in the source. -/
theorem callFrom?_isInfix {code argument : Text} {offset : Nat} {call : Call}
    (h : callFrom? code offset = some call) (hargument : argument ∈ call.value.argument) :
    argument <:+: code := by
  obtain ⟨found, hfound, rfl⟩ := Option.map_eq_some_iff.mp h
  obtain ⟨left, right, rest, hsplit, _, hread⟩ := exists_of_searchFrom hfound
  obtain ⟨written, _, rfl, hinside⟩ := Decorator.exists_of_read hread
  have hwritten : written <:+: code.drop offset := hsplit ▸ List.infix_append' left written rest
  exact (hinside argument hargument).trans (hwritten.trans (List.drop_suffix offset code).isInfix)

theorem entryCall?_isInfix {code argument : Text} {name : String} {call : Call}
    (h : entryCall? code name = some call) (hargument : argument ∈ call.value.argument) :
    argument <:+: code := by
  obtain ⟨offset, _, hcall⟩ := Option.bind_eq_some_iff.mp h
  exact callFrom?_isInfix hcall hargument

/-! ## Statements -/

theorem statementsFrom_isInfix {offset : Nat} {chunks : List Text} {statement : Statement}
    (h : statement ∈ statementsFrom offset chunks) :
    ∃ chunk ∈ chunks, statement.text <:+: chunk := by
  induction chunks generalizing offset with
  | nil => cases h
  | cons chunk rest ih =>
      have hrest : statement ∈ statementsFrom (offset + chunk.length) rest →
          ∃ found ∈ chunk :: rest, statement.text <:+: found := fun hmem => by
        obtain ⟨found, hfound, hwithin⟩ := ih hmem
        exact ⟨found, List.mem_cons_of_mem _ hfound, hwithin⟩
      rw [statementsFrom] at h
      split at h
      · exact hrest h
      · rcases List.mem_cons.mp h with rfl | h
        · exact ⟨chunk, by simp, trim_isInfix chunk⟩
        · exact hrest h

theorem statements_isInfix {code : Text} {statement : Statement} (h : statement ∈ statements code) :
    statement.text <:+: code := by
  obtain ⟨chunk, hchunk, hwithin⟩ := statementsFrom_isInfix h
  have hcode := List.infix_of_mem_flatten hchunk
  rw [flatten_statementChunks] at hcode
  exact hwithin.trans hcode

theorem exists_statement_of_declaration {code : Text} {index : Nat} {found : List Statement}
    {declaration : Declaration} (h : declaration ∈ declarationsFrom code index found) :
    ∃ statement ∈ found, declaration.text = statement.text := by
  induction found generalizing index with
  | nil => cases h
  | cons statement rest ih =>
      have hrest {next : Nat} (hmem : declaration ∈ declarationsFrom code next rest) :
          ∃ other ∈ statement :: rest, declaration.text = other.text := by
        obtain ⟨other, hother, htext⟩ := ih hmem
        exact ⟨other, List.mem_cons_of_mem _ hother, htext⟩
      rw [declarationsFrom] at h
      split at h
      · exact hrest h
      · rcases List.mem_cons.mp h with rfl | h
        · exact ⟨statement, by simp, rfl⟩
        · exact hrest h

theorem declarations_isInfix {code : Text} {declaration : Declaration}
    (h : declaration ∈ declarations code) : declaration.text <:+: code := by
  obtain ⟨statement, hstatement, htext⟩ := exists_statement_of_declaration h
  rw [htext]
  exact statements_isInfix hstatement

/-! ## Types of variables -/

/-- The type that is read stands right in front of what is left. -/
theorem typeUpTo_suffix {stops : Char → Bool} {text type rest : Text}
    (h : typeUpTo stops text = some (type, rest)) : type ++ rest <:+ text := by
  unfold typeUpTo at h
  dsimp only at h
  split at h
  next htaken =>
    obtain ⟨last, hlast, heq⟩ := Option.map_eq_some_iff.mp h
    cases heq
    obtain ⟨front, hfront⟩ := List.getLast?_eq_some_iff.mp hlast
    have hsplit := List.takeWhile_append_dropWhile (p := isBlank) (l := text)
    rw [hfront, List.append_assoc] at hsplit
    exact ⟨front, hsplit⟩
  next =>
    cases h
    rw [List.takeWhile_append_dropWhile]
    exact List.dropWhile_suffix _

theorem takes_storageQualifier : storageQualifier.Takes := by
  unfold storageQualifier accessWord
  refine .bind (.word _) fun _ => .bind .blanks fun _ => .bind (.symbol _) fun _ =>
    .bind .blanks fun _ => .bind (.word _) fun _ => .bind .blanks fun _ => .bind (.symbol _) fun _ =>
    .bind .blanks fun _ => .bind (.orElse ?_ ?_) fun _ => .bind .blanks fun _ =>
    .bind (.symbol _) fun _ => .pure _
  · exact .bind (.word _) fun _ => .pure _
  · exact .bind (.word _) fun _ => .pure _

theorem takes_nameAndColon : nameAndColon.Takes := by
  unfold nameAndColon
  exact .bind .blanks fun _ => .bind .identifier fun _ => .bind .blanks fun _ =>
    .bind (.symbol _) fun _ => .pure _

theorem takes_flatBlock : flatBlock.Takes := by
  unfold flatBlock
  exact .bind (.symbol _) fun _ => .bind (.run _) fun _ => .symbol _

theorem storageVariable_type_isInfix {text rest : Text} {found : Variable}
    (h : storageVariable text = some (found, rest)) : found.type <:+: text := by
  unfold storageVariable at h
  obtain ⟨access, afterAccess, haccess, h⟩ := Reader.bind_eq_some_iff.mp h
  obtain ⟨name, afterName, hname, h⟩ := Reader.bind_eq_some_iff.mp h
  obtain ⟨type, afterType, htype, h⟩ := Reader.bind_eq_some_iff.mp h
  obtain ⟨block, afterBlock, hblock, h⟩ := Reader.bind_eq_some_iff.mp h
  cases h
  have hsuffix : type ++ afterType <:+ text :=
    ((typeUpTo_suffix htype).trans (takes_nameAndColon _ _ _ hname)).trans
      (takes_storageQualifier _ _ _ haccess)
  -- The block is the beginning of what follows the type.
  obtain ⟨behind, hbehind⟩ : ∃ behind, afterType = block.getD [] ++ behind := by
    rcases Reader.optional_eq_some_iff.mp hblock with ⟨written, rfl, hwritten⟩ | ⟨rfl, _, _⟩
    · exact ⟨rest, Reader.consumed_eq_some takes_flatBlock hwritten⟩
    · exact ⟨afterType, rfl⟩
  rw [hbehind, ← List.append_assoc] at hsuffix
  exact (List.prefix_append _ behind).isInfix.trans hsuffix.isInfix

end ShaderMarkup
