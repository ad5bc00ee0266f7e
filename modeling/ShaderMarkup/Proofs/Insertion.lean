import ShaderMarkup.Entry.Call
import ShaderMarkup.Proofs.Boundary
import ShaderMarkup.Proofs.Nesting
import ShaderMarkup.Proofs.Placement
import ShaderMarkup.Proofs.Spacing

/-!
# A line put between two halves of a source

A source is cut in two where a line starts and nothing is open, and a line with a declaration whose
bracket never closes is put in between.  `Front` says what the first half is like and `IsUnclosed`
what the line is like.  The functions, the structs and the declarations of the two halves stay what
they were, and the line adds one declaration, which is refused.
-/

namespace ShaderMarkup

/-! ## The front -/

/-- A whole text and the white space behind it, which ends a line. -/
structure Front (text gap : Text) : Prop where
  whole : IsWhole text
  functions : ClosesFunctions text
  blank : ∀ c ∈ gap, isBlank c = true
  line : text ++ gap = [] ∨ (text ++ gap).getLast? = some '\n'

/-- The front of a source that ends with a line, if it is whole but for white space. -/
theorem exists_front {front : Text} (hline : front = [] ∨ front.getLast? = some '\n')
    (hwhole : IsWhole (Text.trimRight front)) (hfunctions : ClosesFunctions front) :
    ∃ gap, front = Text.trimRight front ++ gap ∧ Front (Text.trimRight front) gap := by
  obtain ⟨gap, hsplit, hblank⟩ := Text.trimRight_append front
  have hgap : ∀ c ∈ gap, isBlank c = true := by simpa using hblank
  refine ⟨gap, hsplit.symm, hwhole, ?_, hgap, by rwa [hsplit]⟩
  rw [← hsplit] at hfunctions
  exact hfunctions.of_append hwhole hgap

section Front

variable {text gap : Text}

theorem Front.segments_append {α : Type} {recognizer : Recognizer α} (h : Front text gap)
    (hstarts : recognizer.StartsWord) (hsettled : recognizer.SettledIn none text) (more : Text) :
    segments recognizer (text ++ gap ++ more)
      = segments recognizer text ++ gap.map .plain ++ segments recognizer more := by
  refine hstarts.segments_append hsettled h.blank ?_ more
  rcases h.line with hnil | hlast
  · simp [hnil]
  · rw [hlast]
    rintro _ ⟨⟩
    decide

end Front

/-! ## The line -/

/-- The words whose decorators make an entry point. -/
def entryWords : List Text :=
  ["compute".toList, "fragment".toList, "workgroup_size".toList, "resolve".toList]

/-- A line that starts a declaration and never closes its bracket.  It holds no brace, no function
and no decorator of an entry point, and ends with its only semicolon. -/
structure IsUnclosed (line : Text) : Prop where
  unclosed : ∃ (kind : ResourceKind) (argument : Text),
    line = '@' :: (kind.decoratorName ++ '(' :: argument) ∧ closingBracket? ('(' :: argument) = none
  no_brace : '\x7b' ∉ line ∧ '\x7d' ∉ line
  one_stop : ∃ body, line = body ++ [';'] ∧ ';' ∉ body
  no_function : occurs (atWordStart functionHeader) line = false
  no_entry : ∀ word ∈ entryWords, occurs (anywhere (entryMark word)) line = false

namespace IsUnclosed

variable {line : Text}

theorem isWhole (h : IsUnclosed line) : IsWhole line where
  stops := by
    obtain ⟨body, rfl, _⟩ := h.one_stop
    simp [endsStatement]
  balanced := openBraces?_of_free fun _ hc =>
    ⟨ne_of_mem_of_not_mem hc h.no_brace.1, ne_of_mem_of_not_mem hc h.no_brace.2⟩

theorem refusesIn_functionText (h : IsUnclosed line) :
    (atWordStart functionText).RefusesIn none line := by
  intro left c right hline more
  rw [Option.or_none]
  have hheader := eq_none_of_not_occurs h.no_function hline
  unfold atWordStart at hheader ⊢
  split
  · rfl
  next hword =>
    rw [if_neg hword] at hheader
    refine Reader.bind_of_none ?_
    rw [(functionHeader_staysBefore _ (h.isWhole.stop_ahead hline (List.cons_ne_nil _ _))).1 more,
      hheader]
    rfl

theorem refusesIn_sealedText (h : IsUnclosed line) : sealedText.RefusesIn none line := by
  intro left c right hline more
  have hc : c ≠ '\x7b' := by
    rintro rfl
    exact h.no_brace.1 (by simp [hline])
  rw [List.cons_append, sealedText_of_ne hc]
  exact h.refusesIn_functionText left c right hline more

theorem refusesIn_structHeader (h : IsUnclosed line) :
    (atWordStart structHeader).RefusesIn none line := by
  intro left c right hline more
  unfold atWordStart
  split
  · rfl
  · rw [structHeader_eq,
      (structHead_staysBefore _ (h.isWhole.stop_ahead hline (List.cons_ne_nil _ _))).1 more]
    cases hread : structHead (c :: right) with
    | none => rfl
    | some result =>
        obtain ⟨name, rest⟩ := result
        obtain ⟨written, hright⟩ := structHead_eq_some hread
        exact absurd (by simp [hline, hright]) h.no_brace.1

end IsUnclosed

/-! ## Functions and structs -/

section Context

variable {text gap line : Text} (hfront : Front text gap) (hline : IsUnclosed line) (back : Text)
include hfront hline

theorem functionBodies_insert :
    functionBodies (text ++ gap ++ (line ++ '\n' :: back)) = functionBodies (text ++ gap ++ back) := by
  have hsettled := hfront.whole.settledIn_functionText hfront.functions
  unfold functionBodies
  rw [hfront.segments_append startsWord_functionText hsettled,
    hfront.segments_append startsWord_functionText hsettled,
    startsWord_functionText.segments_append_of_refuses hline.refusesIn_functionText]
  simp [List.filterMap_map]

theorem structDefinitions_insert :
    structDefinitions (text ++ gap ++ (line ++ '\n' :: back))
      = structDefinitions (text ++ gap ++ back) := by
  have hvalues : ∀ code : Text, structDefinitions code
      = Table.ofListNew (((segments (atWordStart structHeader) code).filterMap
          Segment.value?).filterMap fun value => value.2.map fun body => (value.1, body)) := by
    intro code
    rw [← map_value_hitsFrom 0, List.filterMap_map]
    rfl
  have hsettled := hfront.whole.settledIn_structHeader
  rw [hvalues, hvalues, hfront.segments_append startsWord_structHeader hsettled,
    hfront.segments_append startsWord_structHeader hsettled,
    startsWord_structHeader.segments_append_of_refuses hline.refusesIn_structHeader]
  simp only [List.filterMap_append, filterMap_value?_plain, List.nil_append, List.append_nil]

end Context

/-! ## Declarations -/

theorem IsUnclosed.trim_eq {line : Text} (h : IsUnclosed line) : Text.trim line = line := by
  obtain ⟨kind, argument, hline, _⟩ := h.unclosed
  obtain ⟨body, hbody, _⟩ := h.one_stop
  have hleft : Text.trimLeft line = line := by
    rw [hline]
    rfl
  rw [Text.trim, hleft, hbody]
  exact trimRight_append_cons body (by decide) []

theorem IsUnclosed.chunkTexts {line : Text} (h : IsUnclosed line) (back : Text) :
    chunkTexts (statementChunks 0 (line ++ '\n' :: back))
      = line :: chunkTexts (statementChunks 0 back) := by
  obtain ⟨body, hbody, hstop⟩ := h.one_stop
  have hfree : ∀ c ∈ body, c ≠ '\x7b' ∧ c ≠ '\x7d' ∧ c ≠ ';' := by
    intro c hc
    have hmem : c ∈ line := by simp [hbody, hc]
    exact ⟨ne_of_mem_of_not_mem hmem h.no_brace.1, ne_of_mem_of_not_mem hmem h.no_brace.2,
      ne_of_mem_of_not_mem hc hstop⟩
  have hblank : ∀ c ∈ ['\n'], isBlank c = true := by decide
  have hchunks : statementChunks 0 (line ++ '\n' :: back)
      = [line] ++ statementChunks 0 (['\n'] ++ back) := by
    rw [hbody, List.append_assoc]
    exact statementChunks_line hfree _
  have hfirst : ShaderMarkup.chunkTexts [line] = [line] := by
    obtain ⟨kind, argument, hline, _⟩ := h.unclosed
    unfold ShaderMarkup.chunkTexts
    rw [List.map_singleton, h.trim_eq, List.filter_cons_of_pos (by simp [hline]), List.filter_nil]
  rw [hchunks, chunkTexts_append, chunkTexts_blank hblank, hfirst]
  rfl

theorem isIdentifier_decoratorName (kind : ResourceKind) :
    Reader.IsIdentifier kind.decoratorName := by
  cases kind <;> exact ⟨_, _, rfl, by decide, by decide⟩

/-- The line is one decorator that runs to its end. -/
theorem IsUnclosed.exists_decoratorSegments {line : Text} (h : IsUnclosed line) :
    ∃ (kind : ResourceKind) (argument : Text),
      decoratorSegments line = [.hit ⟨kind.decoratorName, some argument, false⟩ line] := by
  obtain ⟨kind, argument, hline, hclosing⟩ := h.unclosed
  refine ⟨kind, argument, ?_⟩
  have hname : Reader.identifier (kind.decoratorName ++ '(' :: argument)
      = some (kind.decoratorName, '(' :: argument) :=
    Reader.identifier_eq_some_iff.mpr ⟨isIdentifier_decoratorName kind, rfl, by simp; decide⟩
  have hargument : Decorator.readArgument kind.decoratorName ('(' :: argument)
      = (⟨kind.decoratorName, some argument, false⟩, []) := by
    unfold Decorator.readArgument
    rw [List.dropWhile_cons_of_neg (by decide)]
    simp only [hclosing]
  have hread : anywhere Decorator.read none (line ++ [])
      = some (⟨kind.decoratorName, some argument, false⟩, []) := by
    rw [List.append_nil, hline]
    show Decorator.read _ = _
    simp only [Decorator.read, hname, hargument]
  have hne : line ≠ [] := by simp [hline]
  have hsegments := segmentsFrom_of_some hne hread
  rwa [List.append_nil] at hsegments

/-- The line is a declaration by itself. -/
theorem IsUnclosed.exists_creatorKinds {line : Text} (h : IsUnclosed line) :
    ∃ kind, creatorKinds line = [kind] := by
  obtain ⟨kind, argument, hsegments⟩ := h.exists_decoratorSegments
  refine ⟨kind, ?_⟩
  have hcalls : calls line
      = [⟨⟨kind.decoratorName, some argument, false⟩, 0, 0 + line.length⟩] :=
    congrArg (hitsFrom 0) hsegments
  unfold creatorKinds
  rw [hcalls]
  cases kind <;> rfl

theorem countP_isOpening (text : Text) :
    text.countP isOpening = text.count '(' + text.count '[' + text.count '\x7b' := by
  induction text with
  | nil => rfl
  | cons c text ih =>
      simp only [List.countP_cons, List.count_cons, ih, isOpening]
      grind

theorem countP_isClosing (text : Text) :
    text.countP isClosing = text.count ')' + text.count ']' + text.count '\x7d' := by
  induction text with
  | nil => rfl
  | cons c text ih =>
      simp only [List.countP_cons, List.count_cons, ih, isClosing]
      grind

/-- The line holds more opening than closing brackets. -/
theorem IsUnclosed.bracketIssues_ne_nil {line : Text} (h : IsUnclosed line) :
    bracketIssues line ≠ [] := by
  obtain ⟨kind, argument, hline, hclosing⟩ := h.unclosed
  have hargument : closingFrom isOpening isClosing 1 argument = none := by
    have : closingFrom isOpening isClosing 0 ('(' :: argument) = none := hclosing
    rw [closingFrom, if_pos (by decide)] at this
    simpa using this
  have hcount : 1 ≤ 1 + nesting isOpening isClosing argument :=
    nesting_of_closingFrom_eq_none isClosing_eq_false_of_isOpening (Int.le_refl 1)
      hargument (List.prefix_refl argument)
  unfold nesting at hcount
  have hname : kind.decoratorName.countP isOpening = 0 ∧ kind.decoratorName.countP isClosing = 0 := by
    cases kind <;> decide
  have hopened : line.countP isOpening = argument.countP isOpening + 1 := by
    rw [hline, List.countP_cons_of_neg (by decide), List.countP_append,
      List.countP_cons_of_pos (by decide), hname.1, Nat.zero_add]
  have hclosed : line.countP isClosing = argument.countP isClosing := by
    rw [hline, List.countP_cons_of_neg (by decide), List.countP_append,
      List.countP_cons_of_neg (by decide), hname.2, Nat.zero_add]
  intro hnil
  have hpairs : ∀ pair ∈ bracketPairs, line.count pair.1 = line.count pair.2 := by
    intro pair hpair
    have hnone := List.filterMap_eq_nil_iff.mp hnil pair hpair
    by_contra hne
    simp [hne] at hnone
  have hround := hpairs ('(', ')') (by decide)
  have hsquare := hpairs ('[', ']') (by decide)
  have hcurly := hpairs ('\x7b', '\x7d') (by decide)
  dsimp only at hround hsquare hcurly
  rw [countP_isOpening] at hopened
  rw [countP_isClosing] at hclosed
  omega

/-- The statements of the front come first, whatever follows. -/
theorem Front.exists_statements {text gap : Text} (h : Front text gap) :
    ∃ first, ∀ more, ∃ others, statements (text ++ gap ++ more) = first ++ others ∧
      others.map (·.text) = chunkTexts (statementChunks 0 more) := by
  obtain ⟨chunks, hchunks⟩ := h.whole.exists_statementChunks
  refine ⟨statementsFrom 0 chunks, fun more => ?_⟩
  refine ⟨statementsFrom (0 + chunks.flatten.length) (statementChunks 0 (gap ++ more)), ?_, ?_⟩
  · unfold statements
    rw [List.append_assoc, hchunks, statementsFrom_append]
  · rw [map_text_statementsFrom, chunkTexts_blank h.blank]

theorem Declaration.makesRoom_of_lt {place : Nat} {declaration moved : Declaration}
    (hindex : declaration.index < place)
    (h : ∃ line, moved = declaration.movedTo line (declaration.index + 0)) :
    declaration.MakesRoom place moved := by
  obtain ⟨line, rfl⟩ := h
  exact ⟨line, by rw [if_pos hindex, Nat.add_zero]⟩

theorem Declaration.makesRoom_of_le {place : Nat} {declaration moved : Declaration}
    (hindex : place ≤ declaration.index)
    (h : ∃ line, moved = declaration.movedTo line (declaration.index + 1)) :
    declaration.MakesRoom place moved := by
  obtain ⟨line, rfl⟩ := h
  exact ⟨line, by rw [if_neg (by omega)]⟩

/-- The line adds one declaration, which is refused, and the others make room for it. -/
theorem declarations_insert {text gap line : Text} (hfront : Front text gap)
    (hline : IsUnclosed line) (back : Text) :
    ∃ before refused after,
      declarations (text ++ gap ++ (line ++ '\n' :: back)) = before ++ refused :: after ∧
      refused.issues ≠ [] ∧
      List.Forall₂ (Declaration.MakesRoom (declarations (text ++ gap)).length)
        (declarations (text ++ gap ++ back)) (before ++ after) := by
  obtain ⟨first, hstatements⟩ := hfront.exists_statements
  obtain ⟨others, hothers, hothersText⟩ := hstatements back
  obtain ⟨inserted, hinserted, hinsertedText⟩ := hstatements (line ++ '\n' :: back)
  obtain ⟨beyond, hbeyond, hbeyondText⟩ := hstatements []
  rw [hline.chunkTexts] at hinsertedText
  obtain ⟨statement, rest, rfl, rfl, hrestText⟩ := List.map_eq_cons_iff.mp hinsertedText
  obtain rfl : beyond = [] := by simpa [statementChunks, chunkTexts, Text.trim, Text.trimLeft,
    Text.trimRight] using hbeyondText
  rw [List.append_nil, List.append_nil] at hbeyond
  obtain ⟨kind, hkind⟩ := hline.exists_creatorKinds
  -- The declarations of the front, in each of the three sources.
  generalize hsource : text ++ gap ++ back = source at *
  generalize htarget : text ++ gap ++ (statement.text ++ '\n' :: back) = target at *
  generalize text ++ gap = front at *
  have hfirst := declarationsFrom_of_same_texts (rfl : first.map (·.text) = first.map (·.text))
    source target 0 0
  have hplace : (declarationsFrom source 0 first).length = (declarations front).length := by
    unfold declarations
    rw [hbeyond]
    exact (declarationsFrom_of_same_texts rfl source front 0 0).length_eq
  have hlast := declarationsFrom_of_same_texts (hothersText.trans hrestText.symm) source target
    (declarationsFrom source 0 first).length 1
  have htargetPlace : (declarationsFrom target 0 first).length
      = (declarationsFrom source 0 first).length := hfirst.length_eq.symm
  refine ⟨declarationsFrom target 0 first,
    ⟨kind, statement.text, Text.lineAt target statement.start,
      (declarationsFrom source 0 first).length, [kind]⟩,
    declarationsFrom target ((declarationsFrom source 0 first).length + 1) rest, ?_, ?_, ?_⟩
  · unfold declarations
    rw [hinserted, declarationsFrom_append, htargetPlace, Nat.zero_add, declarationsFrom, hkind]
  · intro hnil
    unfold Declaration.issues at hnil
    simp only [List.append_eq_nil_iff] at hnil
    exact hline.bracketIssues_ne_nil hnil.1.1.2
  · unfold declarations at hplace ⊢
    rw [hothers, declarationsFrom_append, Nat.zero_add, ← hplace]
    refine List.rel_append ?_ ?_
    · refine List.Forall₂.imp (fun _ _ h => Declaration.makesRoom_of_lt h.1 h.2)
        ((List.forall₂_and_left _ _).mpr ⟨fun declaration hmem => ?_, hfirst⟩)
      simpa using (index_of_mem_declarationsFrom hmem).2
    · refine List.Forall₂.imp (fun _ _ h => Declaration.makesRoom_of_le h.1 h.2)
        ((List.forall₂_and_left _ _).mpr ⟨fun declaration hmem => ?_, hlast⟩)
      exact (index_of_mem_declarationsFrom hmem).1

/-- The two sources are read against the same functions and structs. -/
theorem ofCode_insert {text gap line : Text} (hfront : Front text gap) (hline : IsUnclosed line)
    (back : Text) (environment : Environment) (settings : Settings) :
    Context.ofCode (text ++ gap ++ (line ++ '\n' :: back)) environment settings
      = { Context.ofCode (text ++ gap ++ back) environment settings with
          code := text ++ gap ++ (line ++ '\n' :: back) } := by
  unfold Context.ofCode
  rw [functionBodies_insert hfront hline, structDefinitions_insert hfront hline]

/-- The line changes nothing about the resources but their indices. -/
theorem acceptedResources_insert {text gap line : Text} (hfront : Front text gap)
    (hline : IsUnclosed line) (back : Text) (environment : Environment) (settings : Settings) :
    acceptedResources (.ofCode (text ++ gap ++ (line ++ '\n' :: back)) environment settings)
      = (acceptedResources (.ofCode (text ++ gap ++ back) environment settings)).map
        (·.makeRoom (declarations (text ++ gap)).length) := by
  obtain ⟨before, refused, after, hdeclared, hissues, hmoved⟩ :=
    declarations_insert hfront hline back
  have hrefused : ∀ context, refused.accepted? context = none := by
    intro context
    unfold Declaration.accepted?
    rw [if_neg (by simpa using hissues)]
  rw [ofCode_insert hfront hline]
  unfold acceptedResources
  show (byKind (declarations (text ++ gap ++ (line ++ '\n' :: back)))).filterMap _ = _
  rw [hdeclared, filterMap_byKind_middle (hrefused _)]
  exact filterMap_byKind_of_makesRoom hmoved _

/-- No declaration breaks the reading of the longer source if none breaks that of the shorter. -/
theorem not_breaksWith_insert {text gap line : Text} (hfront : Front text gap)
    (hline : IsUnclosed line) (back : Text) (environment : Environment) (settings : Settings)
    (h : ∀ declaration ∈ declarations (text ++ gap ++ back), ∀ cause,
      ¬ declaration.BreaksWith (.ofCode (text ++ gap ++ back) environment settings) cause) :
    ∀ declaration ∈ declarations (text ++ gap ++ (line ++ '\n' :: back)), ∀ cause,
      ¬ declaration.BreaksWith
        (.ofCode (text ++ gap ++ (line ++ '\n' :: back)) environment settings) cause := by
  obtain ⟨before, refused, after, hdeclared, hissues, hmoved⟩ :=
    declarations_insert hfront hline back
  rw [ofCode_insert hfront hline, hdeclared]
  intro declaration hmem cause hbreaks
  have hcases : declaration = refused ∨ declaration ∈ before ++ after := by
    simpa [or_left_comm] using hmem
  rcases hcases with rfl | hmem
  · exact hissues hbreaks.1
  · obtain ⟨original, horiginal, line, rfl⟩ := exists_of_mem_of_makesRoom hmoved hmem
    exact h original horiginal cause (Declaration.breaksWith_movedTo_iff.mp hbreaks)

/-! ## Emission -/

/-- What follows the last function or block of the front ends with a semicolon. -/
theorem Front.exists_trailing {text gap : Text} (h : Front text gap) :
    ∃ (front : List (Segment Unit)) (rest : Text),
      segments sealedText text = front ++ rest.map .plain ∧ EndsSealed front ∧
        (rest = [] ∨ rest.getLast? = some ';') := by
  obtain ⟨front, rest, hpieces, hfront⟩ := exists_trailing_plain (segments sealedText text)
  refine ⟨front, rest, hpieces, hfront, ?_⟩
  rcases List.eq_nil_or_concat rest with rfl | ⟨rest, c, rfl⟩
  · exact Or.inl rfl
  · right
    have hsegmented := segmented_segments startsWord_sealedText.advances text
    have hc : c ≠ '\x7d' := ne_brace_of_plain_mem hsegmented h.whole.balanced (by simp [hpieces])
    have hlast : text.getLast? = some c := by
      rw [← hsegmented.flatMap_text, hpieces]
      simp [Segment.text]
    have hstop := endsStatement_iff.mp (h.whole.stops c hlast)
    simpa using hstop.resolve_right hc

section Pieces

variable {kind : ShaderKind} {workgroup : Option Extent} {slotOf : Text → Option Slot}

/-- Of the line only the white space in front is left. -/
theorem IsUnclosed.plainPiece_eq {line : Text} (h : IsUnclosed line) {gap : Text}
    (hgap : ∀ c ∈ gap, isBlank c = true) :
    plainPiece kind workgroup slotOf (gap ++ line) = .ok gap := by
  have hempty : plainPiece kind workgroup slotOf line = .ok [] := by
    obtain ⟨_, argument, hsegments⟩ := h.exists_decoratorSegments
    obtain ⟨_, _, hline, _⟩ := h.unclosed
    have hunbalanced : (calls line).any (fun call => !call.value.balanced) = true := by
      rw [any_calls_eq fun decorator => !decorator.balanced, hsegments]
      rfl
    rw [plainPiece, if_pos hunbalanced, hline]
    rfl
  rw [plainPiece_blank_append hgap, hempty]
  simp [Except.map]

/-- The line puts a line end between the pieces around it. -/
theorem mapM_plainPiece_insert {rest gap line : Text}
    (hrest : rest = [] ∨ rest.getLast? = some ';') (hgap : ∀ c ∈ gap, isBlank c = true)
    (hline : IsUnclosed line) {back : Text} {texts : List Text}
    (h : (semicolonPieces (rest ++ gap ++ back)).mapM (plainPiece kind workgroup slotOf)
      = .ok texts) :
    ∃ left right texts', texts.flatten = left ++ gap ++ right ∧ (rest = [] → left = []) ∧
      (semicolonPieces (rest ++ gap ++ (line ++ '\n' :: back))).mapM
        (plainPiece kind workgroup slotOf) = .ok texts' ∧
      texts'.flatten = left ++ gap ++ '\n' :: right := by
  have hsemicolon : ';' ∉ gap := fun hmem => absurd (hgap _ hmem) (by decide)
  obtain ⟨body, hbody, hfree⟩ := hline.one_stop
  obtain ⟨first, others, hback, hgapBack⟩ := semicolonPieces_free gap hsemicolon back
  have hnewline : semicolonPieces ('\n' :: back) = ('\n' :: first) :: others := by
    obtain ⟨first', others', hback', hnewline⟩ :=
      semicolonPieces_free ['\n'] (by decide) back
    rw [hback] at hback'
    cases hback'
    exact hnewline
  have hinserted : semicolonPieces (gap ++ (line ++ '\n' :: back))
      = (gap ++ line) :: ('\n' :: first) :: others := by
    obtain ⟨first', others', hstop, hbodyStop⟩ := semicolonPieces_free (gap ++ body)
      (by simp [hsemicolon, hfree]) (';' :: '\n' :: back)
    rw [semicolonPieces, if_pos rfl, hnewline] at hstop
    cases hstop
    rw [hbody]
    simpa using hbodyStop
  obtain ⟨pieces, hnil, hpieces⟩ : ∃ pieces, (rest = [] → pieces = []) ∧
      ∀ more, semicolonPieces (rest ++ more) = pieces ++ semicolonPieces more := by
    rcases hrest with rfl | hlast
    · exact ⟨[], by simp, fun more => rfl⟩
    · obtain ⟨piece, pieces, hpieces⟩ := exists_semicolonPieces_append hlast
      exact ⟨piece :: pieces, fun hnil => by simp [hnil] at hlast, hpieces⟩
  have hblank : ∀ c ∈ ['\n'], isBlank c = true := by decide
  rw [List.append_assoc, hpieces, hgapBack, List.mapM_append, List.mapM_cons,
    plainPiece_blank_append hgap] at h
  obtain ⟨before, hbefore, h⟩ := bind_eq_ok_iff.mp h
  obtain ⟨texts', htexts', h⟩ := bind_eq_ok_iff.mp h
  obtain ⟨text, htext, htexts'⟩ := bind_eq_ok_iff.mp htexts'
  obtain ⟨after, hafter, htexts'⟩ := bind_eq_ok_iff.mp htexts'
  cases h
  cases htexts'
  cases hfirst : plainPiece kind workgroup slotOf first with
  | error fault =>
      rw [hfirst] at htext
      cases htext
  | ok plain =>
      rw [hfirst] at htext
      cases htext
      have hsecond : plainPiece kind workgroup slotOf ('\n' :: first) = .ok ('\n' :: plain) := by
        have := plainPiece_blank_append hblank first kind workgroup slotOf
        rwa [hfirst] at this
      refine ⟨before.flatten, plain ++ after.flatten, before ++ gap :: ('\n' :: plain) :: after,
        by simp, ?_, ?_, by simp⟩
      · intro hempty
        rw [hnil hempty] at hbefore
        cases hbefore
        rfl
      · rw [List.append_assoc, hpieces, hinserted, List.mapM_append, hbefore, List.mapM_cons,
          List.mapM_cons, hline.plainPiece_eq hgap, hsecond, hafter]
        rfl

/-- In an open region, the line leaves a line end where a line starts. -/
theorem plainOpen_insert {rest gap line : Text} (hrest : rest = [] ∨ rest.getLast? = some ';')
    (hgap : ∀ c ∈ gap, isBlank c = true) (hline : IsUnclosed line) {atLineStart : Bool}
    (hstart : gap.getLast? = some '\n' ∨ rest = [] ∧ gap = [] ∧ atLineStart = true) {back text : Text}
    (h : plainOpen kind workgroup slotOf atLineStart (rest ++ gap ++ back) = .ok text) :
    ∃ left right, text = left ++ right ∧
      (left.getLast? = some '\n' ∨ rest = [] ∧ gap = [] ∧ left = []) ∧
      plainOpen kind workgroup slotOf atLineStart (rest ++ gap ++ (line ++ '\n' :: back))
        = .ok (left ++ '\n' :: right) := by
  obtain ⟨texts, htexts, h⟩ := bind_eq_ok_iff.mp h
  cases h
  obtain ⟨left, right, texts', hflatten, hempty, hmapM, hflatten'⟩ :=
    mapM_plainPiece_insert hrest hgap hline htexts
  unfold plainOpen
  simp only [hmapM, hflatten, hflatten', unindent_eq_dropIndent, bind_ok, pure_eq_ok, squeeze_newline,
    dropIndent_newline]
  rcases hstart with hlast | ⟨rfl, rfl, rfl⟩
  · obtain ⟨front, rfl⟩ := List.getLast?_eq_some_iff.mp hlast
    have hcut : ∀ more, dropIndent atLineStart (squeeze (left ++ (front ++ ['\n']) ++ more))
        = dropIndent atLineStart (squeeze (left ++ front)) ++ '\n' :: dropIndent true (squeeze more) := by
      intro more
      have hsplit : left ++ (front ++ ['\n']) ++ more = left ++ front ++ '\n' :: more := by simp
      rw [hsplit, squeeze_newline, dropIndent_newline]
    have hend := hcut []
    rw [List.append_nil] at hend
    refine ⟨dropIndent atLineStart (squeeze (left ++ front)) ++ ['\n'], dropIndent true (squeeze right),
      by rw [hcut]; simp, by simp, ?_⟩
    simp [hend, squeeze, dropIndent]
  · rw [hempty rfl]
    exact ⟨[], dropIndent true (squeeze right), by simp, by simp, by simp [squeeze, dropIndent]⟩

end Pieces

/-- The line leaves no trace in the code. -/
theorem emit_insert {text gap line : Text} (hfront : Front text gap) (hline : IsUnclosed line)
    {back : Text} {resources : List Resource} {kind : ShaderKind} {entry : Option EntryPoint}
    {code : Text} (h : emit (text ++ gap ++ back) resources kind entry = .ok code) :
    emit (text ++ gap ++ (line ++ '\n' :: back)) resources kind entry = .ok code := by
  have hsettled := hfront.whole.settledIn_sealedText hfront.functions
  obtain ⟨front, rest, htext, hends, hrest⟩ := hfront.exists_trailing
  obtain ⟨head, tail, hback, hstarts⟩ := exists_leading_plain (segments sealedText back)
  have hregions : regions (text ++ gap ++ back)
      = joinRegions front ++ openRegion (rest ++ gap ++ head) ++ joinRegions tail := by
    rw [regions, hfront.segments_append startsWord_sealedText hsettled, htext, hback,
      ← joinRegions_append hends hstarts]
    simp
  have hregions' : regions (text ++ gap ++ (line ++ '\n' :: back))
      = joinRegions front ++ openRegion (rest ++ gap ++ (line ++ '\n' :: head)) ++ joinRegions tail := by
    rw [regions, hfront.segments_append startsWord_sealedText hsettled, htext,
      startsWord_sealedText.segments_append_of_refuses hline.refusesIn_sealedText, hback,
      ← joinRegions_append hends hstarts]
    simp
  rw [emit_eq, hregions, flatten_plainRegions _ _ _ _ _ hstarts] at h
  rw [emit_eq, hregions', flatten_plainRegions _ _ _ _ _ hstarts]
  obtain ⟨_, hplain, h⟩ := bind_eq_ok_iff.mp h
  obtain ⟨before, hbefore, hplain⟩ := bind_eq_ok_iff.mp hplain
  obtain ⟨plain, hopen, hplain⟩ := bind_eq_ok_iff.mp hplain
  obtain ⟨after, hafter, hplain⟩ := bind_eq_ok_iff.mp hplain
  cases hplain
  cases h
  -- Either the white space in front of the line ends a line, or there is nothing in front of it.
  have hstart : gap.getLast? = some '\n' ∨ rest = [] ∧ gap = [] ∧ before = [] := by
    rcases hfront.line with hnil | hlast
    · obtain ⟨rfl, rfl⟩ := List.append_eq_nil_iff.mp hnil
      obtain ⟨rfl, hrest⟩ := List.append_eq_nil_iff.mp htext.symm
      cases hbefore
      exact Or.inr ⟨List.map_eq_nil_iff.mp hrest, rfl, rfl⟩
    · refine Or.inl ?_
      by_cases hnil : gap = []
      · rw [hnil, List.append_nil] at hlast
        exact absurd (hfront.whole.stops _ hlast) (by decide)
      · rwa [List.getLast?_append_of_ne_nil _ hnil] at hlast
  obtain ⟨left, right, rfl, hleft, hopen'⟩ := plainOpen_insert hrest hfront.blank hline
    (hstart.imp_right fun ⟨hrest, hgap, hnil⟩ => ⟨hrest, hgap, by rw [hnil]; rfl⟩) hopen
  rw [hbefore, bind_ok, hopen', bind_ok, hafter, bind_ok, pure_eq_ok, bind_ok]
  have hline : before.flatten ++ left = [] ∨ (before.flatten ++ left).getLast? = some '\n' := by
    rcases hleft with hleft | ⟨_, hgap, rfl⟩
    · right
      rw [List.getLast?_append, hleft]
      rfl
    · rcases hstart with hlast | ⟨_, _, rfl⟩
      · rw [hgap] at hlast
        cases hlast
      · exact Or.inl rfl
  have htidy := tidyLines_newline hline (right ++ after.flatten)
  simp only [List.append_assoc, List.cons_append] at htidy ⊢
  rw [htidy]

end ShaderMarkup
