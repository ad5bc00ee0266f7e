import ShaderMarkup.Proofs.Evaluation
import ShaderMarkup.Proofs.Locality

/-!
# Which wildcards an expression depends on

The wildcards that an expression mentions are found by a flat search through its text, while its
value comes from tokens.  The two views agree: every wildcard among the tokens is found by the
search (`mem_found_of_tokenized`).  No other token holds the letter that a wildcard starts with, and
the pieces between commas end where no word goes on.

What an expression evaluates to depends on the environment only through the wildcards that its
pieces use (`evaluate_congr`), and these are mentioned (`mem_mentioned_of_mem_uses`).  So two
environments that agree on the mentioned wildcards give an expression the same outcome.
-/

namespace ShaderMarkup

open Reader

/-- The marker of wildcards where the settings give no other. -/
def infoMarker : Text :=
  "info.".toList

theorem infoMarker_append_ne_nil (name : Text) : infoMarker ++ name ≠ [] :=
  List.append_ne_nil_of_left_ne_nil (by decide) name

/-! ## Searching -/

/-- The wildcards that a search finds in a text, from left to right. -/
def foundWildcards (text : Text) : List Text :=
  (segments (anywhere (Token.readWildcard infoMarker)) text).filterMap Segment.value?

theorem segmentsFrom_anywhere {α : Type} (reader : Reader α) (before : Option Char) (text : Text) :
    segmentsFrom (anywhere reader) 0 before text = segments (anywhere reader) text := by
  cases text <;> rfl

theorem readWildcard_eq_some_iff {text name rest : Text} :
    Token.readWildcard infoMarker text = some (name, rest) ↔
      text = infoMarker ++ (name ++ rest) ∧ IsIdentifier name ∧
        ∀ c ∈ rest.head?, isWord c = false := by
  unfold Token.readWildcard
  simp only [bind_eq_some_iff, exactly_eq_some_iff, identifier_eq_some_iff]
  constructor
  · rintro ⟨_, _, rfl, hname, rfl, hrest⟩
    exact ⟨rfl, hname, hrest⟩
  · rintro ⟨rfl, hname, hrest⟩
    exact ⟨(), _, rfl, hname, rfl, hrest⟩

theorem foundWildcards_cons_of_ne {c : Char} (hc : c ≠ 'i') (rest : Text) :
    foundWildcards (c :: rest) = foundWildcards rest := by
  have hnone : Token.readWildcard infoMarker (c :: rest) = none := by
    by_contra hsome
    obtain ⟨⟨name, remaining⟩, hread⟩ := Option.ne_none_iff_exists'.mp hsome
    obtain ⟨heq, _⟩ := readWildcard_eq_some_iff.mp hread
    cases heq
    exact hc rfl
  have hsegments := segmentsFrom_of_none
    (show anywhere (Token.readWildcard infoMarker) none (c :: rest) = none from hnone)
  unfold foundWildcards segments
  rw [hsegments, segmentsFrom_anywhere]
  rfl

theorem foundWildcards_append_of_free {written : Text} (hfree : ∀ c ∈ written, c ≠ 'i')
    (rest : Text) : foundWildcards (written ++ rest) = foundWildcards rest := by
  induction written with
  | nil => rfl
  | cons c written ih =>
      rw [List.forall_mem_cons] at hfree
      rw [List.cons_append, foundWildcards_cons_of_ne hfree.1, ih hfree.2]

theorem foundWildcards_wildcard {name rest : Text} (hname : IsIdentifier name)
    (hrest : ∀ c ∈ rest.head?, isWord c = false) :
    foundWildcards (infoMarker ++ name ++ rest) = name :: foundWildcards rest := by
  have hread : anywhere (Token.readWildcard infoMarker) none (infoMarker ++ name ++ rest)
      = some (name, rest) :=
    readWildcard_eq_some_iff.mpr ⟨List.append_assoc _ _ _, hname, hrest⟩
  have hsegments := segmentsFrom_of_some (infoMarker_append_ne_nil name) hread
  unfold foundWildcards segments
  rw [hsegments, segmentsFrom_anywhere]
  rfl

/-- The characters that separate the pieces of an expression. -/
def separatesPieces (c : Char) : Bool :=
  isBlank c || c == ','

theorem isWord_eq_false_of_separatesPieces (c : Char) (h : separatesPieces c = true) :
    isWord c = false := by
  rcases Bool.or_eq_true_iff.mp h with h | h
  · exact isWord_eq_false_of_isBlank h
  · rw [beq_iff_eq.mp h]
    decide

theorem advances_readWildcard : (anywhere (Token.readWildcard infoMarker)).Advances := by
  intro before text name rest h
  obtain ⟨rfl, hname, _⟩ := readWildcard_eq_some_iff.mp h
  exact ⟨_, infoMarker_append_ne_nil name, (List.append_assoc _ _ _).symm⟩

/-- A search goes on behind a separator as if the text started there. -/
theorem foundWildcards_append {left : Text}
    (hleft : ∀ c ∈ left.getLast?, separatesPieces c = true) (rest : Text) :
    foundWildcards (left ++ rest) = foundWildcards left ++ foundWildcards rest := by
  have hstays : (Token.readWildcard infoMarker).StaysBefore separatesPieces :=
    .bind (.exactly (by decide)) fun _ => .identifier isWord_eq_false_of_separatesPieces
  have hsegments := segmentsFrom_append advances_readWildcard (hstays.settledIn hleft none) rest
  rw [segmentsFrom_anywhere _ _ rest] at hsegments
  unfold foundWildcards segments
  rw [hsegments, List.filterMap_append]
  rfl

/-! ## Tokens -/

theorem ne_of_isNumeric {c : Char} (h : isNumeric c = true) : c ≠ 'i' := by
  rintro rfl
  exact absurd h (by decide)

/-- The search finds every wildcard among the tokens of a text that ends where no word goes on. -/
theorem mem_found_of_tokenized {text right : Text} {tokens : List Token}
    (h : Tokenized infoMarker text tokens) (hright : ∀ c ∈ right.head?, isWord c = false)
    {name : Text} (hname : .wildcard name ∈ tokens) : name ∈ foundWildcards (text ++ right) := by
  induction h with
  | nil => cases hname
  | @gap gap rest tokens hne hgap _ ih =>
      have hfree : ∀ c ∈ gap, c ≠ 'i' := by
        rintro c hc rfl
        exact absurd (hgap _ hc) (by decide)
      rw [List.append_assoc, foundWildcards_append_of_free hfree]
      exact ih hname
  | @token written rest token tokens hne hread _ ih =>
      rw [List.append_assoc]
      -- Of the tokens only wildcards hold the letter that wildcards start with.
      have hother (hfree : ∀ c ∈ written, c ≠ 'i') (htoken : token ≠ .wildcard name) :
          name ∈ foundWildcards (written ++ (rest ++ right)) := by
        rw [foundWildcards_append_of_free hfree]
        exact ih ((List.mem_cons.mp hname).resolve_left (Ne.symm htoken))
      cases hread with
      | @number literal hread =>
          obtain ⟨hsplit, hspelled⟩ := Literal.read_eq_some hread
          obtain rfl := List.append_cancel_right hsplit
          exact hother (fun c hc => ne_of_isNumeric (hspelled.isNumeric c hc)) (by simp)
      | @swizzle letters hread =>
          obtain ⟨hsplit, hletters⟩ := Token.readSwizzle_eq_some hread
          obtain rfl : written = '.' :: letters := List.append_cancel_right hsplit
          refine hother ?_ (by simp)
          rintro c hc rfl
          rcases List.mem_cons.mp hc with hc | hc
          · cases hc
          · exact absurd (hletters.isLetter _ hc) (by decide)
      | punctuation hread =>
          obtain ⟨⟨c, hc, hsplit⟩, _, hwildcard⟩ := Token.readPunctuation_eq_some hread
          obtain rfl : written = [c] := List.append_cancel_right hsplit
          refine hother ?_ (hwildcard name)
          rintro d hd rfl
          rw [← List.mem_singleton.mp hd] at hc
          exact absurd hc (by decide)
      | @wildcard found hread =>
          obtain ⟨_, hsplit, hword, hrest, rfl⟩ := Token.readUse_eq_some hread
          obtain rfl : written = infoMarker ++ found := List.append_cancel_right hsplit
          have hhead : ∀ c ∈ (rest ++ right).head?, isWord c = false := by
            cases rest with
            | nil => exact hright
            | cons d rest => exact hrest
          rw [foundWildcards_wildcard hword hhead, List.mem_cons]
          rcases List.mem_cons.mp hname with heq | hname
          · cases heq
            exact Or.inl rfl
          · exact Or.inr (ih hname)

/-! ## Names -/

theorem mem_insertName {name other : Text} {names : List Text} :
    other ∈ Text.insertName name names ↔ other = name ∨ other ∈ names := by
  induction names with
  | nil => simp [Text.insertName]
  | cons first rest ih =>
      rw [Text.insertName]
      split
      · simp
      · split
        next heq => simp [heq]
        next => simp [ih, or_left_comm]

theorem mem_nameSet {name : Text} {names : List Text} :
    name ∈ Text.nameSet names ↔ name ∈ names := by
  induction names with
  | nil => rfl
  | cons first rest ih =>
      have hstep : Text.nameSet (first :: rest) = Text.insertName first (Text.nameSet rest) := rfl
      rw [hstep, mem_insertName, ih, List.mem_cons]

theorem mem_mentionedWildcards {name expression : Text} :
    name ∈ mentionedWildcards infoMarker expression ↔ name ∈ foundWildcards expression := by
  unfold mentionedWildcards searchAll foundWildcards
  rw [mem_nameSet, map_value_hitsFrom]

/-- The wildcards among the tokens of a piece are mentioned by the expression. -/
theorem mem_mentioned_of_tokenized {expression part : Text} {tokens : List Token}
    (hpart : part ∈ splitTopLevel [','] false expression) (h : Tokenized infoMarker part tokens)
    {name : Text} (hname : .wildcard name ∈ tokens) :
    name ∈ mentionedWildcards infoMarker expression := by
  obtain ⟨left, right, rfl, hleft, hright⟩ := exists_of_mem_splitTopLevel hpart
  have hseparates : ∀ c, isBlank c = true ∨ c ∈ [','] → separatesPieces c = true := by
    simp [separatesPieces]
  rw [mem_mentionedWildcards, List.append_assoc,
    foundWildcards_append fun c hc => hseparates c (hleft c hc)]
  refine List.mem_append_right _ (mem_found_of_tokenized h ?_ hname)
  exact fun c hc => isWord_eq_false_of_separatesPieces c (hseparates c (hright c hc))

/-! ## Values -/

/-- The two environments give all wildcards the same components, but for one name. -/
def Environment.AgreeBut (name : Text) (before after : Environment) : Prop :=
  ∀ other, other ≠ name → before.lookup? other = after.lookup? other

theorem Environment.AgreeBut.symm {name : Text} {before after : Environment}
    (h : before.AgreeBut name after) : after.AgreeBut name before :=
  fun other hother => (h other hother).symm

/-- The value of an expression comes from the values of its leaves. -/
theorem eval_congr {segment : Text} {valueOf valueOf' : WildcardUse → Check Number} {expr : Expr}
    (h : ∀ use ∈ expr.leaves, valueOf use = valueOf' use) :
    expr.eval segment valueOf = expr.eval segment valueOf' := by
  induction expr with
  | number literal => rfl
  | wildcard use => exact h use (List.mem_singleton_self use)
  | neg a ih => simp only [Expr.eval, ih h]
  | pos a ih => simp only [Expr.eval, ih h]
  | add a b iha ihb | sub a b iha ihb | mul a b iha ihb | div a b iha ihb =>
      obtain ⟨hleft, hright⟩ := List.forall_mem_append.mp h
      simp only [Expr.eval, iha hleft, ihb hright]

section Agree

variable {before after : Environment}

theorem evaluateExpr_congr {segment : Text} {expr : Expr}
    (h : ∀ use ∈ expr.uses, before.lookup? use.name = after.lookup? use.name) :
    evaluateExpr before segment expr = evaluateExpr after segment expr := by
  have hresolve : ∀ use ∈ expr.uses, use.resolve before = use.resolve after := by
    intro use huse
    unfold WildcardUse.resolve
    rw [h use huse]
  have hcomponent : evaluateComponent before segment expr
      = evaluateComponent after segment expr := by
    funext component
    unfold evaluateComponent
    rw [eval_congr fun use huse => by rw [hresolve use (Expr.mem_uses_iff.mpr huse)]]
  unfold evaluateExpr
  rw [mapM_congr hresolve, hcomponent]

/-- Environments that agree on the wildcards of every piece give an expression the same values. -/
theorem evaluate_congr {marker expression : Text}
    (h : ∀ part ∈ splitTopLevel [','] false expression, ∀ expr, readExpr marker part = .ok expr →
      ∀ use ∈ expr.uses, before.lookup? use.name = after.lookup? use.name) :
    evaluate before marker expression = evaluate after marker expression := by
  have hparts : (splitTopLevel [','] false expression).mapM (evaluateSegment before marker)
      = (splitTopLevel [','] false expression).mapM (evaluateSegment after marker) := by
    refine mapM_congr fun part hpart => ?_
    unfold evaluateSegment
    cases hread : readExpr marker part with
    | error problem => rfl
    | ok expr => simp only [evaluateExpr_congr (h part hpart expr hread)]
  unfold evaluate
  dsimp only
  rw [hparts]

/-- A wildcard that a piece uses is mentioned by the expression. -/
theorem mem_mentioned_of_mem_uses {expression part : Text}
    (hpart : part ∈ splitTopLevel [','] false expression) {expr : Expr}
    (hread : readExpr infoMarker part = .ok expr) {use : WildcardUse} (huse : use ∈ expr.uses) :
    use.name ∈ mentionedWildcards infoMarker expression := by
  obtain ⟨tokens, htokens, hexpr⟩ := exists_tokens_of_readExpr hread
  exact mem_mentioned_of_tokenized hpart htokens (hexpr.uses huse).1

/-- An expression does not depend on a wildcard that it does not mention. -/
theorem evaluate_eq_of_not_mentioned {name : Text} (h : before.AgreeBut name after)
    {expression : Text} (hname : name ∉ mentionedWildcards infoMarker expression) :
    evaluate before infoMarker expression = evaluate after infoMarker expression := by
  refine evaluate_congr fun part hpart expr hread use huse => h use.name ?_
  rintro rfl
  exact hname (mem_mentioned_of_mem_uses hpart hread huse)

/-- The wildcards that an expression mentions determine its outcome: the values or the fault. -/
theorem evaluate_determined_by_mentioned {expression : Text}
    (h : ∀ name ∈ mentionedWildcards infoMarker expression,
      before.lookup? name = after.lookup? name) :
    evaluate before infoMarker expression = evaluate after infoMarker expression := by
  refine evaluate_congr fun part hpart expr hread use huse => ?_
  have hmentioned : use.name ∈ mentionedWildcards infoMarker expression :=
    mem_mentioned_of_mem_uses hpart hread huse
  exact h use.name hmentioned

end Agree

/-- A wildcard of two integers. -/
def Wildcard.pair (name : String) (first second : Int) : Wildcard :=
  ⟨name.toList, [.int first, .int second], by simp, by simp⟩

/-- An expression in which the word that the marker starts with stands twice in a row. -/
def doubledInfo : Text :=
  "info.info.yx * 2, -info.scale".toList

theorem evaluate_determined_by_mentioned_doubledInfo :
    mentionedWildcards infoMarker doubledInfo = ["info".toList, "scale".toList] ∧
      evaluate [.pair "info" 3 4, .pair "scale" 5 6, .pair "yx" 1 2] infoMarker doubledInfo
        = evaluate [.pair "scale" 7 8, .pair "scale" 5 6, .pair "info" 3 4] infoMarker
            doubledInfo := by
  have hmentioned : mentionedWildcards infoMarker doubledInfo
      = ["info".toList, "scale".toList] := by decide +kernel
  refine ⟨hmentioned, evaluate_determined_by_mentioned ?_⟩
  rw [hmentioned]
  simp only [List.forall_mem_cons]
  exact ⟨rfl, rfl, by simp⟩

end ShaderMarkup
