import ShaderMarkup.Proofs.Boundary
import ShaderMarkup.Proofs.Character
import ShaderMarkup.Proofs.Nesting
import ShaderMarkup.Proofs.Spelling

/-!
# Expressions joined by a comma

An expression is cut at its commas before any of it is read, and where it is cut depends on the
brackets alone.  So two expressions that are joined by a comma are cut into the pieces of both only
if the brackets of the first one come out even.

They do, for every expression that can be evaluated (`isLevel_of_evaluate`).  The grammar opens and
closes brackets in pairs (`Derives.countP_closes`), the other tokens are spelled without brackets
(`Token.IsSpelled.countP_text`), and what a text loses when it is cut and trimmed is commas and
white space.

With this, `splitTopLevel_append_comma` says that cutting goes through the joint.  The last piece of
the first expression needs care: an empty one is dropped at the end of a text, but not in the
middle.  Only a text that ends with a comma has one.
-/

namespace ShaderMarkup

/-! ## Counting brackets -/

/-- As many brackets are opened as closed. -/
def IsLevel (text : Text) : Prop :=
  text.countP isOpening = text.countP isClosing

theorem IsLevel.foldl_depthAfter {text : Text} (h : IsLevel text) (depth : Int) :
    text.foldl (depthAfter isOpening isClosing) depth = depth := by
  rw [ShaderMarkup.foldl_depthAfter isClosing_eq_false_of_isOpening, nesting, h]
  omega

theorem countP_of_class {accepts counts : Char → Bool}
    (h : ∀ c, accepts c = true → counts c = false) {text : Text}
    (htext : ∀ c ∈ text, accepts c = true) : text.countP counts = 0 :=
  List.countP_eq_zero.mpr fun c hc => by simp [h c (htext c hc)]

theorem countP_brackets_of_class {accepts : Char → Bool}
    (hall : ∀ c ∈ ['(', '[', '\x7b', ')', ']', '\x7d'], accepts c = false) {text : Text}
    (h : ∀ c ∈ text, accepts c = true) :
    text.countP isOpening = 0 ∧ text.countP isClosing = 0 :=
  ⟨countP_of_class (fun _ hc => (not_bracket_of_class hall hc).1) h,
    countP_of_class (fun _ hc => (not_bracket_of_class hall hc).2) h⟩

theorem isLevel_flatten {texts : List Text} (h : ∀ text ∈ texts, IsLevel text) :
    IsLevel texts.flatten := by
  induction texts with
  | nil => rfl
  | cons text texts ih =>
      rw [List.forall_mem_cons] at h
      have htext : text.countP isOpening = text.countP isClosing := h.1
      have htexts : texts.flatten.countP isOpening = texts.flatten.countP isClosing := ih h.2
      rw [IsLevel, List.flatten_cons, List.countP_append, List.countP_append, htext, htexts]

theorem countP_trim {accepts : Char → Bool} (h : ∀ c, isBlank c = true → accepts c = false)
    (text : Text) : (Text.trim text).countP accepts = text.countP accepts := by
  obtain ⟨left, right, hsplit, hleft, hright⟩ := exists_trim_eq text
  conv_rhs => rw [hsplit, List.countP_append, List.countP_append, countP_of_class h hleft,
    countP_of_class h hright]
  omega

theorem isLevel_trim_iff {text : Text} : IsLevel (Text.trim text) ↔ IsLevel text := by
  have hblank (c : Char) (hc : isBlank c = true) : isOpening c = false ∧ isClosing c = false :=
    not_bracket_of_class (by decide) hc
  rw [IsLevel, countP_trim fun c hc => (hblank c hc).1, countP_trim fun c hc => (hblank c hc).2]
  rfl

/-! ## Brackets of the grammar -/

namespace Token

/-- The tokens that open a bracket. -/
def opens : Token → Bool
  | .openParen | .openIndex => true
  | _ => false

/-- The tokens that close a bracket. -/
def closes : Token → Bool
  | .closeParen | .closeIndex => true
  | _ => false

theorem IsSpelled.countP_text {token : Token} (h : token.IsSpelled) :
    token.text.countP isOpening = [token].countP opens ∧
      token.text.countP isClosing = [token].countP closes := by
  cases token with
  | number literal => exact countP_brackets_of_class (by decide) (Literal.IsSpelled.isNumeric h)
  | wildcard name =>
      have hname : name.countP isOpening = 0 ∧ name.countP isClosing = 0 :=
        countP_brackets_of_class (by decide) (Reader.IsIdentifier.isWord h)
      simp only [text, List.countP_append, hname]
      exact ⟨rfl, rfl⟩
  | swizzle letters =>
      have hletters : letters.countP isOpening = 0 ∧ letters.countP isClosing = 0 :=
        countP_brackets_of_class (by decide) h.isLetter
      simp only [text, List.countP_cons, hletters]
      exact ⟨rfl, rfl⟩
  | _ => exact ⟨rfl, rfl⟩

end Token

/-- What is counted in a spelled text are its tokens, if there is nothing to count in the gaps. -/
theorem Spelled.countP {accepts : Char → Bool} {counts : Token → Bool}
    (hgap : ∀ c, isTokenGap c = true → accepts c = false)
    (htoken : ∀ token : Token, token.IsSpelled →
      token.text.countP accepts = [token].countP counts)
    {tokens : List Token} {text : Text} (h : Spelled tokens text) :
    text.countP accepts = tokens.countP counts := by
  induction h with
  | nil hall => rw [countP_of_class hgap hall, List.countP_nil]
  | @cons gap rest token tokens hall hspelled _ ih =>
      rw [List.countP_append, List.countP_append, countP_of_class hgap hall,
        htoken token hspelled, ih, Nat.zero_add, ← List.countP_append, List.singleton_append]

theorem WildcardUse.countP_tokens (use : WildcardUse) :
    use.tokens.countP Token.opens = use.indices.length ∧
      use.tokens.countP Token.closes = use.indices.length := by
  have hindices : ∀ indices : List Literal,
      (indices.flatMap indexTokens).countP Token.opens = indices.length ∧
        (indices.flatMap indexTokens).countP Token.closes = indices.length := by
    intro indices
    induction indices with
    | nil => exact ⟨rfl, rfl⟩
    | cons literal indices ih =>
        rw [List.flatMap_cons, List.countP_append, List.countP_append, ih.1, ih.2,
          List.length_cons, Nat.add_comm indices.length]
        exact ⟨rfl, rfl⟩
  have hswizzle : ((use.swizzle.map Token.swizzle).toList).countP Token.opens = 0 ∧
      ((use.swizzle.map Token.swizzle).toList).countP Token.closes = 0 := by
    cases use.swizzle with
    | none => exact ⟨rfl, rfl⟩
    | some letters => exact ⟨rfl, rfl⟩
  obtain ⟨hopens, hcloses⟩ := hindices use.indices
  simp [WildcardUse.tokens, hopens, hcloses, hswizzle, Token.opens, Token.closes]

/-- Every phrase closes the brackets that it opens. -/
theorem Derives.countP_closes {rank : Rank} {tokens : List Token} {expr : Expr}
    (h : Derives rank tokens expr) : tokens.countP Token.opens = tokens.countP Token.closes := by
  induction h with
  | product _ ih | unary _ ih | atom _ ih => exact ih
  | add _ _ iha ihb | sub _ _ iha ihb | mul _ _ iha ihb | div _ _ iha ihb =>
      simp [iha, ihb, Token.opens, Token.closes]
  | neg _ ih | pos _ ih => simp [ih, Token.opens, Token.closes]
  | number literal => rfl
  | wildcard use => rw [use.countP_tokens.1, use.countP_tokens.2]
  | paren _ ih =>
      rw [List.countP_cons, List.countP_cons, List.countP_append, List.countP_append, ih]
      rfl

/-- The brackets of an expression that is read come out even. -/
theorem isLevel_of_readExpr {segment : Text} {expr : Expr}
    (h : readExpr infoMarker segment = .ok expr) : IsLevel segment := by
  obtain ⟨tokens, hspelled, hderives⟩ := readExpr_eq_ok_iff.mp h
  have hgap (c : Char) (hc : isTokenGap c = true) : isOpening c = false ∧ isClosing c = false :=
    not_bracket_of_class (by decide) hc
  calc segment.countP isOpening
      = tokens.countP Token.opens :=
        hspelled.countP (fun c hc => (hgap c hc).1) fun token htoken => htoken.countP_text.1
    _ = tokens.countP Token.closes := hderives.countP_closes
    _ = segment.countP isClosing :=
        (hspelled.countP (fun c hc => (hgap c hc).2) fun token htoken =>
          htoken.countP_text.2).symm

/-! ## Cutting at a comma -/

section Pieces

variable {opens closes separates : Char → Bool}

theorem countP_flatten_topLevelPieces {accepts : Char → Bool}
    (h : ∀ c, separates c = true → accepts c = false) (depth : Int) (text : Text) :
    (topLevelPieces opens closes separates depth text).flatten.countP accepts
      = text.countP accepts := by
  induction text generalizing depth with
  | nil => rfl
  | cons c text ih =>
      rw [topLevelPieces]
      split
      next hcut =>
        have hc : accepts c = false := h c (Bool.and_eq_true_iff.mp hcut).1
        rw [List.flatten_cons, List.nil_append, ih, List.countP_cons_of_neg (by simp [hc])]
      next => rw [Text.flatten_onFirst, List.countP_cons, ih, List.countP_cons]

theorem topLevelPieces_ne_nil (depth : Int) (text : Text) :
    topLevelPieces opens closes separates depth text ≠ [] := by
  obtain ⟨first, others, heq, -⟩ := topLevelPieces_places opens closes separates depth text
  rw [heq]
  exact List.cons_ne_nil first others

/-- A separator where the depth is zero cuts the text in two, and the sides are cut on their own. -/
theorem topLevelPieces_append_separator {mark : Char} (hmark : separates mark = true)
    (hneutral : opens mark = false ∧ closes mark = false) {first : Text} {depth : Int}
    (h : first.foldl (depthAfter opens closes) depth = 0) (second : Text) :
    topLevelPieces opens closes separates depth (first ++ mark :: second)
      = topLevelPieces opens closes separates depth first
        ++ topLevelPieces opens closes separates 0 second := by
  induction first generalizing depth with
  | nil =>
      obtain rfl : depth = 0 := h
      rw [List.nil_append, topLevelPieces]
      simp [depthAfter, hmark, hneutral, topLevelPieces]
  | cons c first ih =>
      rw [List.foldl_cons] at h
      rw [List.cons_append, topLevelPieces, topLevelPieces, ih h]
      split
      next => rfl
      next =>
        obtain ⟨piece, pieces, heq⟩ := List.exists_cons_of_ne_nil
          (@topLevelPieces_ne_nil opens closes separates (depthAfter opens closes depth c) first)
        rw [heq]
        rfl

/-- The last piece is the whole text, or what stands behind a separator at its end. -/
theorem exists_last_topLevelPieces (depth : Int) (text : Text) :
    ∃ others last, topLevelPieces opens closes separates depth text = others ++ [last] ∧
      (others = [] ∧ text = last ∨ others ≠ [] ∧
        ∃ left mark, separates mark = true ∧ text = left ++ mark :: last) := by
  induction text generalizing depth with
  | nil => exact ⟨[], [], rfl, Or.inl ⟨rfl, rfl⟩⟩
  | cons c text ih =>
      obtain ⟨others, last, heq, hplace⟩ := ih (depthAfter opens closes depth c)
      rw [topLevelPieces, heq]
      split
      next hcut =>
        refine ⟨[] :: others, last, rfl, Or.inr ⟨List.cons_ne_nil [] others, ?_⟩⟩
        rcases hplace with ⟨-, rfl⟩ | ⟨-, left, mark, hmark, rfl⟩
        · exact ⟨[], c, (Bool.and_eq_true_iff.mp hcut).1, rfl⟩
        · exact ⟨c :: left, mark, hmark, rfl⟩
      next =>
        rcases hplace with ⟨rfl, rfl⟩ | ⟨hne, left, mark, hmark, rfl⟩
        · exact ⟨[], c :: text, rfl, Or.inl ⟨rfl, rfl⟩⟩
        · obtain ⟨piece, others, rfl⟩ := List.exists_cons_of_ne_nil hne
          exact ⟨(c :: piece) :: others, last, rfl,
            Or.inr ⟨List.cons_ne_nil _ others, c :: left, mark, hmark, rfl⟩⟩

end Pieces

theorem dropEmptyLast_append (texts : List Text) {others : List Text} (h : others ≠ []) :
    dropEmptyLast (texts ++ others) = texts ++ dropEmptyLast others := by
  induction texts with
  | nil => rfl
  | cons text texts ih =>
      rw [List.cons_append, dropEmptyLast, ih, List.cons_append]
      simp [h]

theorem trimRight_of_blank {text : Text} (h : ∀ c ∈ text, isBlank c = true) :
    Text.trimRight text = [] := by
  induction text with
  | nil => rfl
  | cons c text ih =>
      rw [List.forall_mem_cons] at h
      rw [Text.trimRight, ih h.2]
      exact if_pos h.1

theorem splitTopLevel_comma (text : Text) :
    splitTopLevel [','] false text
      = dropEmptyLast
          ((topLevelPieces isOpening isClosing (fun c => c ∈ [',']) 0 text).map Text.trim) := by
  simp only [splitTopLevel, Bool.false_and, Bool.or_false]

/-- The last piece of a text has something in it, unless the text is blank or ends with a comma. -/
theorem splitTopLevel_eq_map {text : Text} (hne : splitTopLevel [','] false text ≠ [])
    (hend : (Text.trim text).getLast? ≠ some ',') :
    splitTopLevel [','] false text
      = (topLevelPieces isOpening isClosing (fun c => c ∈ [',']) 0 text).map Text.trim := by
  rw [splitTopLevel_comma] at hne ⊢
  obtain ⟨others, last, heq, hplace⟩ :=
    @exists_last_topLevelPieces isOpening isClosing (fun c => c ∈ [',']) 0 text
  have hlast : Text.trim last ≠ [] := by
    intro hempty
    -- An empty piece at the end is the whole text, or a comma stands in front of it.
    rcases hplace with ⟨rfl, -⟩ | ⟨-, left, mark, hmark, rfl⟩
    · rw [heq, List.nil_append, List.map_singleton, hempty] at hne
      exact hne rfl
    · obtain rfl := List.mem_singleton.mp (of_decide_eq_true hmark)
      have hblank : ∀ c ∈ last, isBlank c = true := by
        intro c hc
        by_contra hsolid
        have hmem : c ∈ Text.trim last := mem_trim hc (by simpa using hsolid)
        rw [hempty] at hmem
        cases hmem
      rw [trim_append_cons left (by decide) last, trimRight_of_blank hblank,
        List.getLast?_concat] at hend
      exact hend rfl
  rw [heq, List.map_append, List.map_singleton, dropEmptyLast_append _ (List.cons_ne_nil _ []),
    dropEmptyLast, if_neg (by simpa using hlast)]

/-- Cutting goes through a comma that joins two texts. -/
theorem splitTopLevel_append_comma {first : Text} (hlevel : IsLevel first)
    (hne : splitTopLevel [','] false first ≠ []) (hend : (Text.trim first).getLast? ≠ some ',')
    (second : Text) :
    splitTopLevel [','] false (first ++ ',' :: second)
      = splitTopLevel [','] false first ++ splitTopLevel [','] false second := by
  rw [splitTopLevel_eq_map hne hend, splitTopLevel_comma, splitTopLevel_comma,
    topLevelPieces_append_separator (by decide) (by decide) (hlevel.foldl_depthAfter 0),
    List.map_append, dropEmptyLast_append]
  rw [Ne, List.map_eq_nil_iff]
  exact topLevelPieces_ne_nil 0 second

/-! ## Evaluation -/

/-- The brackets of an expression that can be evaluated come out even. -/
theorem isLevel_of_evaluate {environment : Environment} {expression : Text} {values : List Number}
    (h : evaluate environment infoMarker expression = .ok values) : IsLevel expression := by
  obtain ⟨-, results, hresults, -⟩ := evaluate_eq_ok_iff.mp h
  have hpiece : ∀ piece ∈ topLevelPieces isOpening isClosing (fun c => c ∈ [',']) 0 expression,
      IsLevel piece := by
    intro piece hpiece
    rw [← isLevel_trim_iff]
    by_cases hempty : Text.trim piece = []
    · rw [hempty]
      rfl
    · have hpart : Text.trim piece ∈ splitTopLevel [','] false expression := by
        rw [splitTopLevel_comma]
        exact mem_dropEmptyLast (List.mem_map_of_mem hpiece) hempty
      obtain ⟨result, -, hresult⟩ := exists_of_mem_of_mapM_eq_ok hresults hpart
      obtain ⟨-, expr, hread, -⟩ := evaluateSegment_eq_ok_iff.mp hresult
      exact isLevel_of_readExpr hread
  have hflatten := isLevel_flatten hpiece
  have hcomma (c : Char) (hc : decide (c ∈ [',']) = true) :
      isOpening c = false ∧ isClosing c = false := by
    obtain rfl := List.mem_singleton.mp (of_decide_eq_true hc)
    exact ⟨rfl, rfl⟩
  rwa [IsLevel, countP_flatten_topLevelPieces fun c hc => (hcomma c hc).1,
    countP_flatten_topLevelPieces fun c hc => (hcomma c hc).2] at hflatten

/-- Where all segments can be evaluated, only the number of components is left to check. -/
theorem evaluate_of_results {environment : Environment} {marker expression : Text}
    (hparts : splitTopLevel [','] false expression ≠ [] ∧
      [] ∉ splitTopLevel [','] false expression) {results : List (List Number)}
    (hresults : (splitTopLevel [','] false expression).mapM (evaluateSegment environment marker)
      = .ok results) :
    evaluate environment marker expression
      = if maxComponents < results.flatten.length then
          refuse (.tooManyComponents expression results.flatten.length)
        else .ok results.flatten := by
  unfold evaluate
  dsimp only
  rw [if_neg (by simpa using hparts), hresults]
  rfl

/-- Two expressions that are joined by a comma yield the components of both, if these are not too
many. -/
theorem evaluate_append_comma {environment : Environment} {first second : Text}
    {left right : List Number} (hfirst : evaluate environment infoMarker first = .ok left)
    (hsecond : evaluate environment infoMarker second = .ok right)
    (hend : (Text.trim first).getLast? ≠ some ',') :
    evaluate environment infoMarker (first ++ ',' :: second)
      = if maxComponents < (left ++ right).length then
          refuse (.tooManyComponents (first ++ ',' :: second) (left ++ right).length)
        else .ok (left ++ right) := by
  have hlevel := isLevel_of_evaluate hfirst
  obtain ⟨⟨hne, hfull⟩, lefts, hlefts, rfl, -⟩ := evaluate_eq_ok_iff.mp hfirst
  obtain ⟨⟨-, hfull'⟩, rights, hrights, rfl, -⟩ := evaluate_eq_ok_iff.mp hsecond
  have hsplit := splitTopLevel_append_comma hlevel hne hend second
  have hresults : (splitTopLevel [','] false (first ++ ',' :: second)).mapM
      (evaluateSegment environment infoMarker) = .ok (lefts ++ rights) := by
    rw [hsplit, List.mapM_append, hlefts, hrights]
    rfl
  have hparts : splitTopLevel [','] false (first ++ ',' :: second) ≠ [] ∧
      [] ∉ splitTopLevel [','] false (first ++ ',' :: second) := by
    rw [hsplit, List.mem_append, not_or]
    exact ⟨List.append_ne_nil_of_left_ne_nil hne _, hfull, hfull'⟩
  rw [evaluate_of_results hparts hresults, List.flatten_append]

theorem length_of_evaluate {environment : Environment} {marker expression : Text}
    {values : List Number} (h : evaluate environment marker expression = .ok values) :
    1 ≤ values.length ∧ values.length ≤ maxComponents := by
  obtain ⟨-, results, -, -, hlength⟩ := evaluate_eq_ok_iff.mp h
  exact ⟨List.length_pos_iff.mpr (evaluate_eq_ok h).1, hlength⟩

/-- Expressions compose at commas: two of them, the first of which does not end with a comma, yield
together what they yield alone, unless that is more than four components.  An expression always
yields one to four. -/
theorem evaluate_composes_at_commas (environment : Environment) :
    (∀ first second left right, evaluate environment infoMarker first = .ok left →
      evaluate environment infoMarker second = .ok right →
      (Text.trim first).getLast? ≠ some ',' →
        ((left ++ right).length ≤ 4 →
          evaluate environment infoMarker (first ++ ',' :: second) = .ok (left ++ right)) ∧
        (4 < (left ++ right).length →
          ∃ issue, issue = .tooManyComponents (first ++ ',' :: second) (left ++ right).length ∧
            evaluate environment infoMarker (first ++ ',' :: second) = refuse issue ∧
            issue.kind = .evaluation)) ∧
      ∀ marker expression values, evaluate environment marker expression = .ok values →
        1 ≤ values.length ∧ values.length ≤ 4 := by
  refine ⟨fun first second left right hfirst hsecond hend => ?_,
    fun marker expression values h => length_of_evaluate h⟩
  rw [evaluate_append_comma hfirst hsecond hend]
  exact ⟨fun hfits => if_neg (Nat.not_lt.mpr hfits), fun hlong => ⟨_, rfl, if_pos hlong, rfl⟩⟩

/-- Parentheses, and a wildcard of two components. -/
def scaledPair : Text :=
  " (1 + 2) * info.size ".toList

/-- An index, parentheses, and a comma at the end. -/
def indexedTail : Text :=
  "info.size[1], (5),".toList

/-- Four components fit, and three pairs do not. -/
theorem evaluate_composes_at_commas_scaledPair :
    evaluate [.pair "size" 3 4] infoMarker (scaledPair ++ ',' :: indexedTail)
        = .ok [.int 9, .int 12, .int 4, .int 5] ∧
      (∃ issue, evaluate [.pair "size" 3 4] infoMarker
          (scaledPair ++ ',' :: (scaledPair ++ ',' :: indexedTail)) = refuse issue ∧
        issue.kind = .evaluation) := by
  have hpair : evaluate [.pair "size" 3 4] infoMarker scaledPair = .ok [.int 9, .int 12] := rfl
  have htail : evaluate [.pair "size" 3 4] infoMarker indexedTail = .ok [.int 4, .int 5] := rfl
  have hend : (Text.trim scaledPair).getLast? ≠ some ',' := by decide
  obtain ⟨hcomposes, -⟩ := evaluate_composes_at_commas [.pair "size" 3 4]
  have hfour := (hcomposes _ _ _ _ hpair htail hend).1 (by decide)
  obtain ⟨issue, -, hrefused, hkind⟩ := (hcomposes _ _ _ _ hpair hfour hend).2 (by decide)
  exact ⟨hfour, issue, hrefused, hkind⟩

end ShaderMarkup
