import ShaderMarkup.Proofs.Evaluation
import ShaderMarkup.Proofs.Insertion

/-!
# Entry points in front of the end of a statement

The decorators of an entry point are sought in the whole source, and where a bracket is missing the
argument runs on past the end of its statement.  What is read from such an argument is never used:
an expression, a name or a size that holds the end of a statement is refused
(`not_mem_of_evaluate`).  So an entry point that is accepted is read from text in front of that end
or from text behind it, and a line that is put in between is not looked at (`entryPoint_insert`).
-/

namespace ShaderMarkup

/-! ## Expressions -/

section Expressions

theorem mem_of_mem_soughtMarker {marker : Text} {c : Char} (h : c ∈ Token.soughtMarker marker) :
    c = '\n' ∨ c ∈ marker := by
  fun_induction Token.soughtMarker marker with
  | case1 => cases h
  | case2 rest ih => grind
  | case3 rest ih => grind
  | case4 d rest _ _ ih => grind

/-- The characters of an expression: white space and those of its tokens. -/
theorem Tokenized.mem {marker text : Text} {tokens : List Token} (h : Tokenized marker text tokens)
    {c : Char} (hc : c ∈ text) :
    isTokenGap c = true ∨ isNumeric c = true ∨ isWord c = true ∨ c ∈ Token.punctuationMarks ∨
      c ∈ Token.soughtMarker marker := by
  induction h with
  | nil => cases hc
  | @token written rest token tokens hne hread _ ih =>
      rcases List.mem_append.mp hc with hc | hc
      · obtain ⟨front, _, hsplit, hchars⟩ := hread.exists_written
        obtain rfl : written = front := List.append_cancel_right hsplit
        exact Or.inr (hchars c hc)
      · exact ih hc
  | @gap gap rest tokens hne hgap _ ih =>
      rcases List.mem_append.mp hc with hc | hc
      · exact Or.inl (hgap c hc)
      · exact ih hc

/-- An expression that can be evaluated does not hold the end of a statement, unless the marker
does. -/
theorem not_any_of_evaluate {environment : Environment} {marker expression : Text}
    {values : List Number} (hmarker : ∀ c ∈ marker, endsStatement c = false)
    (h : evaluate environment marker expression = .ok values) :
    expression.any endsStatement = false := by
  by_contra hstop
  obtain ⟨c, hmem, hc⟩ := List.any_eq_true.mp (by simpa using hstop)
  obtain ⟨part, hpart, hinside⟩ := exists_mem_splitTopLevel false hmem
    (isBlank_eq_false_of_endsStatement c hc)
    (show c ∉ [','] by rcases endsStatement_iff.mp hc with rfl | rfl <;> decide)
  obtain ⟨_, results, hresults, _⟩ := evaluate_eq_ok_iff.mp h
  obtain ⟨result, _, hresult⟩ := exists_of_mem_of_mapM_eq_ok hresults hpart
  obtain ⟨_, expr, hexpr, _⟩ := evaluateSegment_eq_ok_iff.mp hresult
  obtain ⟨tokens, htokens, _⟩ := exists_tokens_of_readExpr hexpr
  have hsought : c ∉ Token.soughtMarker marker := by
    intro hsought
    rcases mem_of_mem_soughtMarker hsought with rfl | hsought
    · exact absurd hc (by decide)
    · rw [hmarker c hsought] at hc
      cases hc
  rcases htokens.mem hinside with hgap | hnumeric | hword | hmark | hmark
  · rcases endsStatement_iff.mp hc with rfl | rfl <;> exact absurd hgap (by decide)
  · rcases endsStatement_iff.mp hc with rfl | rfl <;> exact absurd hnumeric (by decide)
  · rw [isWord_eq_false_of_endsStatement c hc] at hword
    cases hword
  · rcases endsStatement_iff.mp hc with rfl | rfl <;> exact absurd hmark (by decide)
  · exact hsought hmark

end Expressions

/-! ## Marks -/

/-- The text from the first mark of a word on. -/
def markedFrom? (word : Text) : Text → Option Text
  | [] => none
  | c :: rest =>
      if (entryMark word (c :: rest)).isSome then some (c :: rest) else markedFrom? word rest

theorem entryMark_eq_some {word text rest : Text} {u : Unit}
    (h : entryMark word text = some (u, rest)) :
    ∃ behind, text = '@' :: (word ++ behind) ∧ (∀ c ∈ behind.head?, isWord c = false) ∧
      ∃ gap, behind = gap ++ '(' :: rest := by
  unfold entryMark at h
  simp only [Reader.bind_eq_some_iff, Reader.symbol_eq_some_iff, Reader.exactly_eq_some_iff,
    Reader.notBefore_eq_some_iff, Reader.blanks_eq_some_iff] at h
  obtain ⟨_, _, rfl, _, _, rfl, _, behind, ⟨rfl, hword⟩, _, _, ⟨gap, hgap, _⟩, rfl⟩ := h
  exact ⟨behind, rfl, hword, gap, hgap⟩

theorem entryMark_of_ne {word rest : Text} {c : Char} (hc : c ≠ '@') :
    entryMark word (c :: rest) = none := by
  cases hread : entryMark word (c :: rest) with
  | none => rfl
  | some result =>
      obtain ⟨u, remaining⟩ := result
      obtain ⟨behind, heq, _⟩ := entryMark_eq_some hread
      cases heq
      exact absurd rfl hc

theorem entryMark_staysBefore {word : Text} (hword : word.any endsStatement = false) :
    (entryMark word).StaysBefore endsStatement :=
  .bind (.symbol (by decide)) fun _ => .bind (.exactly hword) fun _ =>
    .bind (.notBefore isWord) fun _ =>
      .bind (.blanks isBlank_eq_false_of_endsStatement) fun _ => .symbol (by decide)

/-- A mark is the beginning of a decorator. -/
theorem exists_read_of_entryMark {word text : Text} (hword : Reader.IsIdentifier word)
    (h : (entryMark word text).isSome) :
    ∃ decorator rest, Decorator.read text = some (decorator, rest) := by
  obtain ⟨⟨u, rest⟩, hmark⟩ := Option.isSome_iff_exists.mp h
  obtain ⟨behind, rfl, hbehind, _⟩ := entryMark_eq_some hmark
  have hname : Reader.identifier (word ++ behind) = some (word, behind) :=
    Reader.identifier_eq_some_iff.mpr ⟨hword, rfl, hbehind⟩
  simp only [Decorator.read, hname]
  exact ⟨_, _, rfl⟩

theorem exists_of_markedFrom? {word text marked : Text} (h : markedFrom? word text = some marked) :
    (entryMark word marked).isSome ∧ ∃ left, text = left ++ marked := by
  induction text with
  | nil => cases h
  | cons c rest ih =>
      rw [markedFrom?] at h
      split at h
      next hmark =>
        cases h
        exact ⟨hmark, [], rfl⟩
      next =>
        obtain ⟨hmark, left, rfl⟩ := ih h
        exact ⟨hmark, c :: left, rfl⟩

/-- The offset of the first mark. -/
theorem head?_starts_hitsFrom (word : Text) (offset : Nat) (before : Option Char) (text : Text) :
    ((hitsFrom offset (segmentsFrom (anywhere (entryMark word)) 0 before text)).map (·.start)).head?
      = (markedFrom? word text).map fun marked => offset + (text.length - marked.length) := by
  induction text generalizing offset before with
  | nil => rfl
  | cons c rest ih =>
      rw [markedFrom?, segmentsFrom]
      cases hmark : entryMark word (c :: rest) with
      | some result =>
          rw [show anywhere (entryMark word) before (c :: rest) = _ from hmark]
          simp [hitsFrom]
      | none =>
          rw [show anywhere (entryMark word) before (c :: rest) = _ from hmark]
          simp only [hitsFrom, ih, Option.isSome_none, Bool.false_eq_true, if_false]
          refine Option.map_congr fun marked hmarked => ?_
          obtain ⟨_, left, rfl⟩ := exists_of_markedFrom? hmarked
          simp only [List.length_cons, List.length_append]
          omega

/-- The first decorator of a name is read where its first mark stands. -/
theorem map_value_entryCall? {code : Text} {name : String}
    (hname : Reader.IsIdentifier name.toList) :
    (entryCall? code name).map (·.value)
      = (markedFrom? name.toList code).bind fun marked => (Decorator.read marked).map (·.1) := by
  have hhead : (entryMarks code name.toList).head?
      = (markedFrom? name.toList code).map fun marked => 0 + (code.length - marked.length) :=
    head?_starts_hitsFrom name.toList 0 none code
  unfold entryCall?
  rw [hhead]
  cases hmarked : markedFrom? name.toList code with
  | none => rfl
  | some marked =>
      obtain ⟨hmark, left, rfl⟩ := exists_of_markedFrom? hmarked
      obtain ⟨decorator, rest, hread⟩ := exists_read_of_entryMark hname hmark
      have hdrop : (left ++ marked).drop (0 + ((left ++ marked).length - marked.length)) = marked := by
        simp
      simp only [Option.map_some, Option.bind_some, callFrom?, hdrop, hread]
      cases marked with
      | nil => cases hread
      | cons c marked => simp [search, searchFrom, anywhere, hread]

/-! ## Decorators in front of the end of a statement -/

/-- Two readings of a decorator: they are the same, or the arguments of both run past the same end
of a statement. -/
inductive Decorator.Alike : Decorator → Decorator → Prop
  | same (decorator : Decorator) : Alike decorator decorator
  | past {stop : Char} (hstop : endsStatement stop = true) (name front first second : Text)
      (balanced balanced' : Bool) :
      Alike ⟨name, some (front ++ stop :: first), balanced⟩
        ⟨name, some (front ++ stop :: second), balanced'⟩

theorem isGap_eq_false_of_endsStatement (c : Char) (h : endsStatement c = true) :
    isGap c = false := by
  rcases endsStatement_iff.mp h with rfl | rfl <;> decide

namespace Decorator

section Argument

variable {afterName body more : Text} (hbody : afterName.dropWhile isGap = '(' :: (body ++ more))
include hbody

/-- An argument that is closed in a text is the same whatever follows. -/
theorem readArgument_of_closed {width : Nat} (h : closingBracket? ('(' :: body) = some width)
    (name : Text) :
    (readArgument name afterName).1 = ⟨name, some (body.take (width - 1)), true⟩ := by
  have hclosing : closingBracket? ('(' :: (body ++ more)) = some width := closingFrom_append h more
  have hwidth : width < body.length + 1 := lt_length_of_closingFrom h
  unfold readArgument
  rw [hbody]
  simp only [hclosing]
  rw [List.take_append_of_le_length (by omega)]

/-- An argument that is open in a text holds the rest of it. -/
theorem exists_readArgument_of_open (h : closingBracket? ('(' :: body) = none) (name : Text) :
    ∃ rest balanced,
      (readArgument name afterName).1 = ⟨name, some (body ++ rest), balanced⟩ := by
  unfold readArgument
  rw [hbody]
  cases hclosing : closingBracket? ('(' :: (body ++ more)) with
  | none =>
      simp only [hclosing]
      exact ⟨more, false, rfl⟩
  | some width =>
      have hwidth : body.length + 1 ≤ width := length_le_of_closingFrom_append h hclosing
      simp only [hclosing]
      refine ⟨more.take (width - 1 - body.length), true, ?_⟩
      rw [List.take_append, List.take_of_length_le (by omega)]

end Argument

theorem readArgument_alike (name : Text) {afterName : Text}
    (h : afterName.any endsStatement = true) (first second : Text) :
    Alike (readArgument name (afterName ++ first)).1 (readArgument name (afterName ++ second)).1 := by
  obtain ⟨hahead, hmore⟩ :=
    Reader.StaysBefore.longest_run isGap_eq_false_of_endsStatement h
  have hfirst := (hmore first).2
  have hsecond := (hmore second).2
  generalize afterName.dropWhile isGap = behind at hahead hfirst hsecond
  cases behind with
  | nil => cases hahead
  | cons c body =>
      by_cases hc : c = '('
      · subst hc
        cases hclosing : closingBracket? ('(' :: body) with
        | some width =>
            rw [readArgument_of_closed hfirst hclosing, readArgument_of_closed hsecond hclosing]
            exact .same _
        | none =>
            obtain ⟨rest, balanced, hargument⟩ := exists_readArgument_of_open hfirst hclosing name
            obtain ⟨rest', balanced', hargument'⟩ := exists_readArgument_of_open hsecond hclosing name
            obtain ⟨stop, hmem, hstop⟩ := List.any_eq_true.mp hahead
            have hinside : stop ∈ body := (List.mem_cons.mp hmem).resolve_left fun heq =>
              absurd hstop (by rw [heq]; decide)
            obtain ⟨front, back, rfl⟩ := List.append_of_mem hinside
            rw [hargument, hargument', List.append_assoc, List.append_assoc]
            exact .past hstop name front (back ++ rest) (back ++ rest') balanced balanced'
      · have hnone : ∀ more, (afterName ++ more).dropWhile isGap = c :: body ++ more →
            (readArgument name (afterName ++ more)).1 = ⟨name, none, true⟩ := by
          intro more hdrop
          unfold readArgument
          rw [hdrop, List.cons_append]
          split
          next heq =>
            cases heq
            exact absurd rfl hc
          next => rfl
        rw [hnone first hfirst, hnone second hsecond]
        exact .same _

/-- What is read in front of the end of a statement hardly depends on what follows. -/
theorem read_alike {text : Text} (h : text.any endsStatement = true) (first second : Text) :
    Option.Rel Alike ((Decorator.read (text ++ first)).map (·.1))
      ((Decorator.read (text ++ second)).map (·.1)) := by
  cases text with
  | nil => cases h
  | cons c text =>
      by_cases hc : c = '@'
      · subst hc
        obtain ⟨hmore, hahead⟩ := Reader.StaysBefore.identifier isWord_eq_false_of_endsStatement text
          (by simpa [endsStatement] using h)
        simp only [List.cons_append, Decorator.read, hmore]
        cases hname : Reader.identifier text with
        | none => exact .none
        | some result =>
            obtain ⟨name, afterName⟩ := result
            exact .some (readArgument_alike name (hahead _ hname) first second)
      · have hnone : ∀ more, Decorator.read (c :: text ++ more) = none := by
          intro more
          unfold Decorator.read
          split
          next heq =>
            cases heq
            exact absurd rfl hc
          next => rfl
        rw [hnone, hnone]
        exact .none

end Decorator

/-! ## Marks around a line -/

theorem isIdentifier_of_mem_entryWords {word : Text} (h : word ∈ entryWords) :
    Reader.IsIdentifier word := by
  simp only [entryWords, List.mem_cons, List.not_mem_nil, or_false] at h
  rcases h with rfl | rfl | rfl | rfl <;> exact ⟨_, _, rfl, by decide, by decide⟩

theorem any_eq_false_of_mem_entryWords {word : Text} (h : word ∈ entryWords) :
    word.any endsStatement = false := by
  rw [List.any_eq_false]
  intro c hc hstop
  have := (isIdentifier_of_mem_entryWords h).isWord c hc
  rw [isWord_eq_false_of_endsStatement c hstop] at this
  cases this

/-- The first mark of a text in two halves, if the first half is whole. -/
theorem markedFrom?_append {word text : Text} (hword : word.any endsStatement = false)
    (hstops : ∀ c ∈ text.getLast?, endsStatement c = true) (more : Text) :
    markedFrom? word (text ++ more)
      = ((markedFrom? word text).map (· ++ more)).or (markedFrom? word more) := by
  induction text with
  | nil => rfl
  | cons c rest ih =>
      have hahead : (c :: rest).any endsStatement = true := by
        have hlast := List.getLast?_eq_some_getLast (List.cons_ne_nil c rest)
        exact List.any_eq_true.mpr ⟨_, List.getLast_mem _, hstops _ hlast⟩
      have hmark := (entryMark_staysBefore hword _ hahead).1 more
      rw [List.cons_append] at hmark ⊢
      rw [markedFrom?, markedFrom?, hmark, Option.isSome_map]
      split
      · rfl
      · refine ih fun d hd => hstops d ?_
        rw [List.getLast?_cons, Option.mem_def.mp hd]
        rfl

theorem markedFrom?_blank {word gap : Text} (hgap : ∀ c ∈ gap, isBlank c = true) (more : Text) :
    markedFrom? word (gap ++ more) = markedFrom? word more := by
  induction gap with
  | nil => rfl
  | cons c gap ih =>
      rw [List.forall_mem_cons] at hgap
      have hc : c ≠ '@' := by
        rintro rfl
        exact absurd hgap.1 (by decide)
      rw [List.cons_append, markedFrom?, entryMark_of_ne hc]
      exact ih hgap.2

theorem IsUnclosed.markedFrom? {line word : Text} (h : IsUnclosed line) (hword : word ∈ entryWords) :
    markedFrom? word line = none := by
  cases hmarked : ShaderMarkup.markedFrom? word line with
  | none => rfl
  | some marked =>
      obtain ⟨hmark, left, hleft⟩ := exists_of_markedFrom? hmarked
      have hnone : entryMark word marked = none := eq_none_of_not_occurs (h.no_entry word hword) hleft
      rw [hnone] at hmark
      cases hmark

/-- The decorators of entry points are read alike from two sources. -/
def SameEntries (code other : Text) : Prop :=
  ∀ name : String, name.toList ∈ entryWords →
    Option.Rel Decorator.Alike ((entryCall? code name).map (·.value))
      ((entryCall? other name).map (·.value))

/-- The decorators of entry points are read alike with and without the line. -/
theorem sameEntries_insert {text gap line : Text} (hfront : Front text gap)
    (hline : IsUnclosed line) (back : Text) :
    SameEntries (text ++ gap ++ back) (text ++ gap ++ (line ++ '\n' :: back)) := by
  intro name hname
  have hidentifier := isIdentifier_of_mem_entryWords hname
  have hfree := any_eq_false_of_mem_entryWords hname
  have hsplit : ∀ more, markedFrom? name.toList (text ++ gap ++ more)
      = ((markedFrom? name.toList text).map (· ++ (gap ++ more))).or (markedFrom? name.toList more) := by
    intro more
    rw [List.append_assoc, markedFrom?_append hfree hfront.whole.stops,
      markedFrom?_blank hfront.blank]
  have hback : markedFrom? name.toList (line ++ '\n' :: back) = markedFrom? name.toList back := by
    have hnewline : markedFrom? name.toList (['\n'] ++ back) = markedFrom? name.toList back :=
      markedFrom?_blank (by decide) back
    rw [markedFrom?_append hfree hline.isWhole.stops, hline.markedFrom? hname, ← hnewline]
    rfl
  rw [map_value_entryCall? hidentifier, map_value_entryCall? hidentifier, hsplit, hsplit, hback]
  cases hmarked : markedFrom? name.toList text with
  | none =>
      simp only [Option.map_none, Option.none_or]
      cases (markedFrom? name.toList back).bind fun marked => (Decorator.read marked).map (·.1) with
      | none => exact .none
      | some decorator => exact .some (.same decorator)
  | some marked =>
      obtain ⟨hmark, left, hleft⟩ := exists_of_markedFrom? hmarked
      have hne : marked ≠ [] := by
        rintro rfl
        cases hmark
      exact Decorator.read_alike (hfront.whole.stop_ahead hleft hne) _ _

/-! ## Entry points around a line -/

theorem le_start_of_mem_hitsFrom {α : Type} {offset : Nat} {pieces : List (Segment α)}
    {found : Found α} (h : found ∈ hitsFrom offset pieces) : offset ≤ found.start := by
  induction pieces generalizing offset with
  | nil => cases h
  | cons piece rest ih =>
      cases piece with
      | plain c => exact Nat.le_of_succ_le (ih h)
      | hit value written =>
          rcases List.mem_cons.mp h with rfl | h
          · exact Nat.le_refl offset
          · exact Nat.le_of_add_right_le (ih h)

/-- The leading `@canvas` is the decorator that the argument starts with, if that is its name. -/
theorem leadingCanvas?_eq (argument : Text) :
    leadingCanvas? argument
      = ((Decorator.read argument).map (·.1)).filter fun canvas => canvas.name = "canvas".toList := by
  unfold leadingCanvas? calls searchAll segments
  cases argument with
  | nil => rfl
  | cons c rest =>
      rw [segmentsFrom, show anywhere Decorator.read none (c :: rest) = Decorator.read (c :: rest)
        from rfl]
      cases Decorator.read (c :: rest) with
      | some result =>
          simp only [hitsFrom, true_and, Option.map_some, Option.filter_some, decide_eq_true_eq]
      | none =>
          simp only [hitsFrom, Option.map_none, Option.filter_none]
          split
          next first others heq =>
            have := le_start_of_mem_hitsFrom (heq ▸ List.mem_cons_self)
            rw [if_neg (by omega)]
          next => rfl

theorem blaming_eq_ok_iff {α : Type} {code : Text} {call : Call} {check : Check α} {value : α} :
    blaming code call check = .ok value ↔ check = .ok value := by
  unfold blaming Check.located
  cases check <;> simp

theorem not_any_of_whole {argument name : Text}
    (h : Reader.whole Reader.identifier argument = some name) :
    argument.any endsStatement = false := by
  unfold Reader.whole at h
  split at h
  next value hread =>
    obtain ⟨hname, rfl, _⟩ := Reader.identifier_eq_some_iff.mp hread
    rw [List.append_nil, List.any_eq_false]
    intro c hc hstop
    have := hname.isWord c hc
    rw [isWord_eq_false_of_endsStatement c hstop] at this
    cases this
  next => cases h

namespace Decorator.Alike

variable {first second : Decorator}

/-- Readings whose argument holds no end of a statement are the same. -/
theorem eq (h : first.Alike second)
    (hfree : (first.argument.getD []).any endsStatement = false) : first = second := by
  cases h with
  | same => rfl
  | past hstop name front => simp [hstop] at hfree

theorem eq_of_evaluate (h : first.Alike second) {context : Context} {values : List Number}
    (hmarker : ∀ c ∈ context.settings.marker, endsStatement c = false)
    (hvalues : context.evaluate (first.argument.getD []) = .ok values) : first = second :=
  h.eq (not_any_of_evaluate hmarker hvalues)

theorem eq_of_whole (h : first.Alike second) {name : Text}
    (hname : Reader.whole Reader.identifier first.trimmedArgument = some name) : first = second := by
  refine h.eq ?_
  rw [List.any_eq_false]
  intro c hc hstop
  have hmem := mem_trim hc (isBlank_eq_false_of_endsStatement c hstop)
  exact List.any_eq_false.mp (not_any_of_whole hname) c hmem hstop

theorem eq_of_canvasOf (h : first.Alike second) {context : Context} {size : Int × Int}
    (hmarker : ∀ c ∈ context.settings.marker, endsStatement c = false)
    (hsize : canvasOf context first = .ok size) : first = second := by
  refine h.eq ?_
  unfold canvasOf at hsize
  cases hargument : first.argument with
  | none => rfl
  | some argument =>
      rw [hargument] at hsize
      cases hvalues : context.evaluate argument with
      | ok values => exact not_any_of_evaluate hmarker hvalues
      | error fault =>
          simp only [hvalues] at hsize
          cases fault <;> cases hsize

/-- A target that is accepted is read from text in front of the end of a statement. -/
theorem fragmentTarget (h : first.Alike second) {context : Context}
    (hmarker : ∀ c ∈ context.settings.marker, endsStatement c = false) {entry : FragmentEntry}
    (hentry : fragmentTarget context first = .ok entry) :
    fragmentTarget context second = .ok entry := by
  cases h with
  | same => exact hentry
  | @past stop hstop name front rest other balanced balanced' =>
      have hsolid := isBlank_eq_false_of_endsStatement stop hstop
      have htrim : ∀ rest, Text.trim (front ++ stop :: rest)
          = (Text.trimLeft front ++ [stop]) ++ Text.trimRight rest := by
        intro rest
        rw [trim_append_cons front hsolid, List.append_cons]
      have hahead : (Text.trimLeft front ++ [stop]).any endsStatement = true := by simp [hstop]
      have hread := Decorator.read_alike hahead (Text.trimRight rest) (Text.trimRight other)
      unfold ShaderMarkup.fragmentTarget at hentry ⊢
      simp only [trimmedArgument, Option.getD_some, leadingCanvas?_eq, htrim] at hentry ⊢
      generalize (Decorator.read (Text.trimLeft front ++ [stop] ++ Text.trimRight rest)).map (·.1)
        = found at hread hentry
      generalize (Decorator.read (Text.trimLeft front ++ [stop] ++ Text.trimRight other)).map (·.1)
        = found' at hread ⊢
      split at hentry
      next canvas hcanvas =>
        obtain ⟨size, hsize, _⟩ := bind_eq_ok_iff.mp hentry
        obtain ⟨rfl, _⟩ := Option.filter_eq_some_iff.mp hcanvas
        cases hread with
        | @some _ canvas' hcanvas' =>
            obtain rfl := hcanvas'.eq_of_canvasOf hmarker hsize
            rw [hcanvas]
            exact hentry
      next =>
        -- Without a canvas the argument has to be a name, and a name ends no statement.
        split at hentry
        next word hword =>
          have hfree := not_any_of_whole hword
          rw [List.any_append, hahead, Bool.true_or] at hfree
          cases hfree
        next => cases hentry

end Decorator.Alike

theorem checkTarget_makeRoom (place : Nat) (resources : List Resource) (target : Text) :
    checkTarget (resources.map (·.makeRoom place)) target = checkTarget resources target := by
  have hchosen : (fun resource : Resource => decide (resource.name = target) && resource.usedInBody)
        ∘ Resource.makeRoom place
      = fun resource : Resource => decide (resource.name = target) && resource.usedInBody := rfl
  unfold checkTarget
  rw [List.find?_map, hchosen]
  cases List.find? _ resources <;> rfl

namespace SameEntries

variable {code other : Text} (h : SameEntries code other) {name : String}
include h

theorem exists_call (hname : name.toList ∈ entryWords) {call : Call}
    (hcall : entryCall? code name = some call) :
    ∃ call', entryCall? other name = some call' ∧ call.value.Alike call'.value := by
  have hrel := h name hname
  rw [hcall, Option.map_some] at hrel
  cases hother : entryCall? other name with
  | none =>
      rw [hother] at hrel
      cases hrel
  | some call' =>
      rw [hother, Option.map_some] at hrel
      cases hrel with
      | some halike => exact ⟨call', rfl, halike⟩

theorem eq_none (hname : name.toList ∈ entryWords) (hcall : entryCall? code name = none) :
    entryCall? other name = none := by
  have hrel := h name hname
  rw [hcall, Option.map_none] at hrel
  cases hother : entryCall? other name with
  | none => rfl
  | some call =>
      rw [hother] at hrel
      cases hrel

theorem shaderKind {kind : ShaderKind} (hkind : shaderKind code = .ok kind) :
    shaderKind other = .ok kind := by
  unfold ShaderMarkup.shaderKind at hkind ⊢
  have hcompute : "compute".toList ∈ entryWords := by simp [entryWords]
  have hfragment : "fragment".toList ∈ entryWords := by simp [entryWords]
  cases hfirst : entryCall? code "compute" with
  | none =>
      rw [hfirst] at hkind
      rw [h.eq_none hcompute hfirst]
      cases hsecond : entryCall? code "fragment" with
      | none =>
          rw [hsecond] at hkind
          rw [h.eq_none hfragment hsecond]
          exact hkind
      | some fragment =>
          rw [hsecond] at hkind
          obtain ⟨fragment', hfragment', _⟩ := h.exists_call hfragment hsecond
          rw [hfragment']
          exact hkind
  | some compute =>
      rw [hfirst] at hkind
      obtain ⟨compute', hcompute', _⟩ := h.exists_call hcompute hfirst
      rw [hcompute']
      cases hsecond : entryCall? code "fragment" with
      | none =>
          rw [hsecond] at hkind
          rw [h.eq_none hfragment hsecond]
          exact hkind
      | some fragment =>
          rw [hsecond] at hkind
          cases hkind

theorem computeEntry {context : Context} (hcode : context.code = code)
    (hmarker : ∀ c ∈ context.settings.marker, endsStatement c = false) {entry : ComputeEntry}
    (hentry : computeEntry context = .ok entry) :
    computeEntry { context with code := other } = .ok entry := by
  unfold ShaderMarkup.computeEntry at hentry ⊢
  rw [hcode] at hentry
  dsimp only
  split at hentry
  next => cases hentry
  next compute hcompute =>
    obtain ⟨compute', hcompute', hsame⟩ := h.exists_call (by simp [entryWords]) hcompute
    obtain ⟨counts, hcounts, hentry⟩ := bind_eq_ok_iff.mp hentry
    have hcounts := blaming_eq_ok_iff.mp hcounts
    have heq : compute.value = compute'.value := by
      unfold threadCounts at hcounts
      split at hcounts
      next => cases hcounts
      next =>
        obtain ⟨values, hvalues, _⟩ := bind_eq_ok_iff.mp hcounts
        exact hsame.eq_of_evaluate hmarker hvalues
    rw [heq] at hcounts
    rw [hcompute']
    refine bind_eq_ok_iff.mpr ⟨counts, blaming_eq_ok_iff.mpr hcounts, ?_⟩
    dsimp only at hentry ⊢
    split at hentry
    next hnone =>
      rw [h.eq_none (by simp [entryWords]) hnone]
      exact hentry
    next workgroup hworkgroup =>
      obtain ⟨workgroup', hworkgroup', hsame'⟩ := h.exists_call (by simp [entryWords]) hworkgroup
      obtain ⟨size, hsize, hentry⟩ := bind_eq_ok_iff.mp hentry
      have hsize := blaming_eq_ok_iff.mp hsize
      obtain ⟨values, hvalues, _⟩ := bind_eq_ok_iff.mp hsize
      rw [hsame'.eq_of_evaluate hmarker hvalues] at hsize
      rw [hworkgroup']
      exact bind_eq_ok_iff.mpr ⟨size, blaming_eq_ok_iff.mpr hsize, hentry⟩

theorem addResolve {target entry : FragmentEntry} (hentry : addResolve code target = .ok entry) :
    addResolve other target = .ok entry := by
  unfold ShaderMarkup.addResolve at hentry ⊢
  split at hentry
  next hnone =>
    rw [h.eq_none (by simp [entryWords]) hnone]
    exact hentry
  next resolve hresolve =>
    obtain ⟨resolve', hresolve', hsame⟩ := h.exists_call (by simp [entryWords]) hresolve
    rw [hresolve']
    dsimp only at hentry ⊢
    split at hentry
    next => cases hentry
    next name hname =>
      rw [← hsame.eq_of_whole hname, hname]
      exact hentry

theorem fragmentEntry {context : Context} (hcode : context.code = code)
    (hmarker : ∀ c ∈ context.settings.marker, endsStatement c = false) {resources : List Resource}
    {entry : FragmentEntry} (hentry : fragmentEntry context resources = .ok entry) (place : Nat) :
    fragmentEntry { context with code := other } (resources.map (·.makeRoom place))
      = .ok entry := by
  unfold ShaderMarkup.fragmentEntry at hentry ⊢
  rw [hcode] at hentry
  dsimp only
  split at hentry
  next => cases hentry
  next fragment hfragment =>
    obtain ⟨fragment', hfragment', hsame⟩ := h.exists_call (by simp [entryWords]) hfragment
    rw [hfragment']
    obtain ⟨target, htarget, hentry⟩ := bind_eq_ok_iff.mp (blaming_eq_ok_iff.mp hentry)
    obtain ⟨entry', hentry', hentry⟩ := bind_eq_ok_iff.mp hentry
    refine blaming_eq_ok_iff.mpr (bind_eq_ok_iff.mpr ⟨target, hsame.fragmentTarget hmarker htarget,
      bind_eq_ok_iff.mpr ⟨entry', h.addResolve hentry', ?_⟩⟩)
    rw [checkTarget_makeRoom]
    exact hentry

theorem entryPoint {context : Context} (hcode : context.code = code)
    (hmarker : ∀ c ∈ context.settings.marker, endsStatement c = false) {resources : List Resource}
    {kind : ShaderKind} {entry : Option EntryPoint}
    (hentry : entryPoint context resources kind = .ok entry) (place : Nat) :
    entryPoint { context with code := other } (resources.map (·.makeRoom place)) kind
      = .ok entry := by
  cases kind with
  | compute =>
      obtain ⟨compute, hcompute, hentry⟩ := bind_eq_ok_iff.mp hentry
      exact bind_eq_ok_iff.mpr ⟨compute, h.computeEntry hcode hmarker hcompute, hentry⟩
  | fragment =>
      obtain ⟨fragment, hfragment, hentry⟩ := bind_eq_ok_iff.mp hentry
      exact bind_eq_ok_iff.mpr ⟨fragment, h.fragmentEntry hcode hmarker hfragment place, hentry⟩
  | resource => exact hentry

end SameEntries

end ShaderMarkup
