import ShaderMarkup.Proofs.Grammar
import ShaderMarkup.Proofs.Mention

/-!
# How expressions are spelled

`Spelled tokens text` says that a text consists of the tokens, with white space in front of each and
at the end.  How a token is spelled is said without the readers (`Token.text`, `Token.IsSpelled`).

Readers take as much as they can, so a token is read back only where what follows cannot go on with
it.  In an expression it never can: a number is followed by white space, a bracket or an operator,
and a wildcard by one of these or the point of a swizzle.  So reading a text and cutting it into
tokens are the same, and with the grammar of the tokens this gives `readExpr_eq_ok_iff`: the texts
that are read are the spellings of what the grammar derives.
-/

namespace ShaderMarkup

open Reader

/-! ## Spelling -/

namespace Token

/-- The text of a token, where wildcards have the marker that needs no settings. -/
def text : Token → Text
  | .number literal => literal.text
  | .wildcard name => infoMarker ++ name
  | .swizzle letters => '.' :: letters
  | .openParen => ['(']
  | .closeParen => [')']
  | .openIndex => ['[']
  | .closeIndex => [']']
  | .plus => ['+']
  | .minus => ['-']
  | .times => ['*']
  | .over => ['/']

/-- The parts of the token are as they can be written. -/
def IsSpelled : Token → Prop
  | .number literal => literal.IsSpelled
  | .wildcard name => IsIdentifier name
  | .swizzle letters => IsSwizzle letters
  | _ => True

end Token

theorem Token.IsSpelled.text_ne_nil {token : Token} (h : token.IsSpelled) : token.text ≠ [] := by
  cases token with
  | number literal => exact Literal.IsSpelled.text_ne_nil h
  | _ => exact List.cons_ne_nil _ _

/-- The text consists of the tokens, with runs of white space between and around them. -/
inductive Spelled : List Token → Text → Prop
  | nil {gap : Text} (hgap : ∀ c ∈ gap, isTokenGap c = true) : Spelled [] gap
  | cons {gap rest : Text} {token : Token} {tokens : List Token}
      (hgap : ∀ c ∈ gap, isTokenGap c = true) (htoken : token.IsSpelled)
      (hrest : Spelled tokens rest) : Spelled (token :: tokens) (gap ++ (token.text ++ rest))

theorem Spelled.gap {tokens : List Token} {text gap : Text} (h : Spelled tokens text)
    (hgap : ∀ c ∈ gap, isTokenGap c = true) : Spelled tokens (gap ++ text) := by
  cases h with
  | nil hblank => exact .nil (List.forall_mem_append.mpr ⟨hgap, hblank⟩)
  | cons hblank htoken hrest =>
      rw [← List.append_assoc]
      exact .cons (List.forall_mem_append.mpr ⟨hgap, hblank⟩) htoken hrest

theorem Spelled.isSpelled {tokens : List Token} {text : Text} (h : Spelled tokens text) :
    ∀ token ∈ tokens, token.IsSpelled := by
  induction h with
  | nil => simp
  | cons _ htoken _ ih => exact List.forall_mem_cons.mpr ⟨htoken, ih⟩

/-! ## What is read is spelled -/

theorem readPunctuation_text {text rest : Text} {token : Token}
    (h : Token.readPunctuation text = some (token, rest)) :
    text = token.text ++ rest ∧ token.IsSpelled := by
  unfold Token.readPunctuation at h
  split at h
  case h_9 => cases h
  all_goals
    cases h
    exact ⟨rfl, trivial⟩

theorem Token.ReadAs.spelled {text rest : Text} {token : Token}
    (h : ReadAs infoMarker text rest token) : text = token.text ++ rest ∧ token.IsSpelled := by
  cases h with
  | number h => exact Literal.read_eq_some h
  | wildcard h =>
      obtain ⟨name, htext, hname, -, rfl⟩ := readUse_eq_some h
      exact ⟨htext, hname⟩
  | swizzle h => exact readSwizzle_eq_some h
  | punctuation h => exact readPunctuation_text h

theorem Tokenized.spelled {text : Text} {tokens : List Token}
    (h : Tokenized infoMarker text tokens) : Spelled tokens text := by
  induction h with
  | nil => exact .nil (by simp)
  | @token written rest token tokens hne hread _ ih =>
      obtain ⟨hsplit, htoken⟩ := hread.spelled
      obtain rfl := List.append_cancel_right hsplit
      exact @Spelled.cons [] rest token tokens (by simp) htoken ih
  | gap hne hgap _ ih => exact ih.gap hgap

/-! ## Numbers are read back -/

/-- The characters that may stand behind a number. -/
def endMarks : Text :=
  [' ', '\t', '\x0c', '\r', '\n'] ++ Token.punctuationMarks

/-- The text is empty or starts with something that ends a number. -/
def EndsNumber (rest : Text) : Prop :=
  ∀ c ∈ rest.head?, c ∈ endMarks

theorem EndsNumber.of_endMarks {p : Char → Prop} {rest : Text} (h : EndsNumber rest)
    (hmarks : ∀ c ∈ endMarks, p c) : ∀ c ∈ rest.head?, p c :=
  fun c hc => hmarks c (h c hc)

theorem ne_of_isDecimal {c d : Char} (h : isDecimal c = true) (hd : isDecimal d = false) :
    c ≠ d := by
  rintro rfl
  rw [h] at hd
  cases hd

namespace Literal

theorem readExponent_text {part : ExponentPart} (h : part.IsSpelled) {rest : Text}
    (hrest : ∀ c ∈ rest.head?, isDecimal c = false) :
    readExponent (exponentText part ++ rest) = some (part, rest) := by
  obtain ⟨mark, sign, digits⟩ := part
  obtain ⟨hmark, hsign, hdigits, hne⟩ := h
  dsimp only at hmark hsign hdigits hne
  have hfirst : one (fun c => c == 'e' || c == 'E') (mark :: (sign.toList ++ digits ++ rest))
      = some (mark, sign.toList ++ digits ++ rest) :=
    one_eq_some_iff.mpr ⟨rfl, by simpa using hmark⟩
  have hsecond : optional (one fun c => c == '+' || c == '-') (sign.toList ++ digits ++ rest)
      = some (sign, digits ++ rest) := by
    rw [List.append_assoc]
    cases sign with
    | some c =>
        refine optional_eq_some_iff.mpr (Or.inl ⟨c, rfl, one_eq_some_iff.mpr ⟨rfl, ?_⟩⟩)
        simpa using hsign c rfl
    | none =>
        refine optional_eq_some_iff.mpr (Or.inr ⟨rfl, one_eq_none fun c hc => ?_, rfl⟩)
        have hdigit : isDecimal c = true := by
          obtain ⟨d, digits, rfl⟩ := List.exists_cons_of_ne_nil hne
          cases hc
          exact hdigits c (by simp)
        simp [ne_of_isDecimal hdigit (show isDecimal '+' = false by decide),
          ne_of_isDecimal hdigit (show isDecimal '-' = false by decide)]
  have hthird : run1 isDecimal (digits ++ rest) = some (digits, rest) :=
    run1_eq_some_iff.mpr ⟨⟨rfl, hdigits, hrest⟩, hne⟩
  unfold readExponent exponentText
  rw [List.cons_append, List.cons_append, bind_of_some hfirst, bind_of_some hsecond,
    bind_of_some hthird]
  rfl

theorem readMantissa_text {literal : Literal} (h : literal.IsSpelled) {rest : Text}
    (hrest : ∀ c ∈ rest.head?, isDecimal c = false)
    (hpoint : literal.fraction = none → rest.head? ≠ some '.') :
    readMantissa (literal.whole ++ literal.fraction.elim [] ('.' :: ·) ++ rest)
      = some ((literal.whole, literal.fraction), rest) := by
  obtain ⟨whole, fraction, exponent⟩ := literal
  obtain ⟨hwhole, hfraction, hne, -⟩ := h
  dsimp only at hwhole hfraction hne hpoint ⊢
  unfold readMantissa
  rw [List.append_assoc]
  by_cases hnil : whole = []
  · subst hnil
    obtain ⟨digits, rfl, hdigits⟩ := hne.resolve_left (fun hne => hne rfl)
    have hrun : run1 isDecimal (digits ++ rest) = some (digits, rest) :=
      run1_eq_some_iff.mpr ⟨⟨rfl, hfraction digits rfl, hrest⟩, hdigits⟩
    have hsymbol : symbol '.' ('.' :: (digits ++ rest)) = some ((), digits ++ rest) := rfl
    refine orElse_eq_some_iff.mpr (Or.inr ⟨bind_of_none (run1_eq_none ?_), ?_⟩)
    · intro c hc
      cases hc
      decide
    · exact (bind_of_some hsymbol).trans ((bind_of_some hrun).trans rfl)
  · have hhead : ∀ c ∈ (fraction.elim [] ('.' :: ·) ++ rest).head?, isDecimal c = false := by
      cases fraction with
      | none => exact hrest
      | some digits =>
          intro c hc
          cases hc
          decide
    have hrun : run1 isDecimal (whole ++ (fraction.elim [] ('.' :: ·) ++ rest))
        = some (whole, fraction.elim [] ('.' :: ·) ++ rest) :=
      run1_eq_some_iff.mpr ⟨⟨rfl, hwhole, hhead⟩, hnil⟩
    refine orElse_eq_some_iff.mpr (Or.inl ?_)
    rw [bind_of_some hrun]
    cases fraction with
    | none =>
        have hnone : optional (do symbol '.'; run isDecimal : Reader Text) rest
            = some (none, rest) :=
          optional_eq_some_iff.mpr
            (Or.inr ⟨rfl, bind_of_none (symbol_eq_none (hpoint rfl)), rfl⟩)
        exact (bind_of_some hnone).trans rfl
    | some digits =>
        have hdigits : run isDecimal (digits ++ rest) = some (digits, rest) :=
          run_eq_some_iff.mpr ⟨rfl, hfraction digits rfl, hrest⟩
        have hsymbol : symbol '.' ('.' :: (digits ++ rest)) = some ((), digits ++ rest) := rfl
        have hsome : optional (do symbol '.'; run isDecimal : Reader Text)
            ('.' :: (digits ++ rest)) = some (some digits, rest) :=
          optional_eq_some_iff.mpr
            (Or.inl ⟨digits, rfl, (bind_of_some hsymbol).trans hdigits⟩)
        exact (bind_of_some hsome).trans rfl

theorem read_text {literal : Literal} (h : literal.IsSpelled) {rest : Text}
    (hrest : EndsNumber rest) : Literal.read (literal.text ++ rest) = some (literal, rest) := by
  have hdecimal : ∀ c ∈ rest.head?, isDecimal c = false := hrest.of_endMarks (by decide)
  unfold Literal.read Literal.text
  rw [List.append_assoc]
  cases hexponent : literal.exponent with
  | none =>
      have hpoint : rest.head? ≠ some '.' := by
        intro hhead
        exact absurd (hrest '.' hhead) (by decide)
      have hmark : ∀ c ∈ rest.head?, (c == 'e' || c == 'E') = false :=
        hrest.of_endMarks (by decide)
      have hnone : optional readExponent rest = some (none, rest) :=
        optional_eq_some_iff.mpr (Or.inr ⟨rfl, bind_of_none (one_eq_none hmark), rfl⟩)
      rw [Option.elim_none, List.nil_append,
        bind_of_some (readMantissa_text h hdecimal fun _ => hpoint)]
      refine (bind_of_some hnone).trans ?_
      rw [← hexponent]
      rfl
  | some part =>
      have hpart := h.exponent part hexponent
      have hmark : ∀ c ∈ (exponentText part ++ rest).head?, c = 'e' ∨ c = 'E' := by
        intro c hc
        cases hc
        exact hpart.mark
      have hmantissa := @readMantissa_text literal h (exponentText part ++ rest)
        (fun c hc => by rcases hmark c hc with rfl | rfl <;> decide)
        (fun _ hhead => by rcases hmark '.' hhead with heq | heq <;> exact absurd heq (by decide))
      have hsome : optional readExponent (exponentText part ++ rest) = some (some part, rest) :=
        optional_eq_some_iff.mpr (Or.inl ⟨part, rfl, readExponent_text hpart hdecimal⟩)
      rw [Option.elim_some, bind_of_some hmantissa]
      refine (bind_of_some hsome).trans ?_
      rw [← hexponent]
      rfl

end Literal

/-! ## Tokens are read back -/

theorem Literal.read_eq_none {text : Text} (h : ∀ c ∈ text.head?, isDecimal c = false)
    (hpoint : ∀ rest, text = '.' :: rest → ∀ c ∈ rest.head?, isDecimal c = false) :
    Literal.read text = none := by
  have hsecond : (do
      symbol '.'
      let fraction ← run1 isDecimal
      pure ([], some fraction) : Reader (Text × Option Text)) text = none := by
    by_cases hhead : text.head? = some '.'
    · obtain ⟨rest, rfl⟩ := List.head?_eq_some_iff.mp hhead
      have hsymbol : symbol '.' ('.' :: rest) = some ((), rest) := rfl
      exact (bind_of_some hsymbol).trans (bind_of_none (run1_eq_none (hpoint rest rfl)))
    · exact bind_of_none (symbol_eq_none hhead)
  refine bind_of_none ?_
  rw [Literal.readMantissa, orElse, bind_of_none (run1_eq_none h)]
  exact hsecond

namespace Token

theorem readUse_eq_none {text : Text} (h : text.head? ≠ some 'i') :
    readUse infoMarker text = none := by
  by_contra hsome
  obtain ⟨⟨name, rest⟩, hread⟩ := Option.ne_none_iff_exists'.mp hsome
  obtain ⟨identifier, rfl, -⟩ := readUse_eq_some hread
  exact h rfl

theorem readUse_text {name rest : Text} (h : IsIdentifier name)
    (hrest : ∀ c ∈ rest.head?, isWord c = false) :
    readUse infoMarker (infoMarker ++ name ++ rest) = some (name, rest) := by
  have hread : readWildcard infoMarker (infoMarker ++ name ++ rest) = some (name, rest) :=
    readWildcard_eq_some_iff.mpr ⟨List.append_assoc _ _ _, h, hrest⟩
  exact (bind_of_some hread).trans rfl

theorem isWord_of_isComponentLetter {c : Char} (h : isComponentLetter c = true) :
    isWord c = true := by
  simp only [isComponentLetter, decide_eq_true_eq, List.mem_cons, List.not_mem_nil, or_false] at h
  rcases h with rfl | rfl | rfl | rfl | rfl | rfl | rfl | rfl <;> decide

theorem readSwizzle_text {letters rest : Text} (h : IsSwizzle letters)
    (hrest : ∀ c ∈ rest.head?, isWord c = false) :
    readSwizzle ('.' :: (letters ++ rest)) = some (letters, rest) := by
  have hsymbol : symbol '.' ('.' :: (letters ++ rest)) = some ((), letters ++ rest) := rfl
  have hrun : run1 isWord (letters ++ rest) = some (letters, rest) :=
    run1_eq_some_iff.mpr
      ⟨⟨rfl, fun c hc => isWord_of_isComponentLetter (h.isLetter c hc), hrest⟩, h.ne_nil⟩
  have hletters : letters.length ≤ 4 ∧ letters.all isComponentLetter = true :=
    ⟨h.length_le, by simpa using h.isLetter⟩
  unfold readSwizzle
  rw [bind_of_some hsymbol, bind_of_some hrun]
  erw [if_pos hletters]
  rfl

/-- Numbers are sought before wildcards where the marker is the usual one. -/
theorem readers_infoMarker : readers infoMarker = [
    (do let literal ← Literal.read; pure (.number literal)),
    (do let name ← readUse infoMarker; pure (.wildcard name)),
    (do let letters ← readSwizzle; pure (.swizzle letters)),
    readPunctuation] := by
  unfold readers
  exact if_pos (by decide)

section ReadAt

variable {position : Position} {text rest : Text}

theorem readAt_number {literal : Literal} (h : Literal.read text = some (literal, rest))
    (hfits : (number literal).fits position = true) :
    readAt infoMarker position text = some (.number literal, rest) := by
  rw [readAt, readers_infoMarker, List.findSome?_cons, bind_of_some h]
  simp only [pure_apply, hfits, if_true]

variable (hnumber : Literal.read text = none)

include hnumber

theorem readAt_wildcard {name : Text} (h : readUse infoMarker text = some (name, rest))
    (hfits : (wildcard name).fits position = true) :
    readAt infoMarker position text = some (.wildcard name, rest) := by
  rw [readAt, readers_infoMarker, List.findSome?_cons, bind_of_none hnumber, List.findSome?_cons,
    bind_of_some h]
  simp only [pure_apply, hfits, if_true]

variable (huse : readUse infoMarker text = none)

include huse

theorem readAt_swizzle {letters : Text} (h : readSwizzle text = some (letters, rest))
    (hfits : (swizzle letters).fits position = true) :
    readAt infoMarker position text = some (.swizzle letters, rest) := by
  rw [readAt, readers_infoMarker, List.findSome?_cons, bind_of_none hnumber, List.findSome?_cons,
    bind_of_none huse, List.findSome?_cons, bind_of_some h]
  simp only [pure_apply, hfits, if_true]

variable (hswizzle : readSwizzle text = none)

include hswizzle

theorem readAt_punctuation {token : Token} (h : readPunctuation text = some (token, rest))
    (hfits : token.fits position = true) :
    readAt infoMarker position text = some (token, rest) := by
  rw [readAt, readers_infoMarker, List.findSome?_cons, bind_of_none hnumber, List.findSome?_cons,
    bind_of_none huse, List.findSome?_cons, bind_of_none hswizzle, List.findSome?_cons, h]
  simp only [hfits, if_true]

theorem readAt_eq_none (h : readPunctuation text = none) :
    readAt infoMarker position text = none := by
  rw [readAt, readers_infoMarker, List.findSome?_cons, bind_of_none hnumber, List.findSome?_cons,
    bind_of_none huse, List.findSome?_cons, bind_of_none hswizzle, List.findSome?_cons, h]
  rfl

end ReadAt

/-- The brackets and operators. -/
def isMark : Token → Bool
  | .number _ | .wildcard _ | .swizzle _ => false
  | _ => true

/-- What follows cannot go on with the token. -/
def EndsBefore (rest : Text) : Token → Prop
  | .number _ => EndsNumber rest
  | .wildcard _ | .swizzle _ => ∀ c ∈ rest.head?, isWord c = false
  | _ => True

theorem exists_of_isMark {token : Token} (h : token.isMark = true) :
    ∃ c ∈ punctuationMarks, token.text = [c] ∧
      ∀ rest, readPunctuation (c :: rest) = some (token, rest) := by
  cases token with
  | number | wildcard | swizzle => cases h
  | openParen => exact ⟨'(', by decide, rfl, fun _ => rfl⟩
  | closeParen => exact ⟨')', by decide, rfl, fun _ => rfl⟩
  | openIndex => exact ⟨'[', by decide, rfl, fun _ => rfl⟩
  | closeIndex => exact ⟨']', by decide, rfl, fun _ => rfl⟩
  | plus => exact ⟨'+', by decide, rfl, fun _ => rfl⟩
  | minus => exact ⟨'-', by decide, rfl, fun _ => rfl⟩
  | times => exact ⟨'*', by decide, rfl, fun _ => rfl⟩
  | «over» => exact ⟨'/', by decide, rfl, fun _ => rfl⟩

/-- Only brackets and operators start with a character that ends numbers. -/
theorem readers_refuse {c : Char} (hc : c ∈ endMarks) (rest : Text) :
    Literal.read (c :: rest) = none ∧ readUse infoMarker (c :: rest) = none ∧
      readSwizzle (c :: rest) = none := by
  have hdecimal : ∀ c ∈ endMarks, isDecimal c = false ∧ c ≠ '.' ∧ c ≠ 'i' := by decide
  obtain ⟨hdigit, hpoint, hletter⟩ := hdecimal c hc
  refine ⟨Literal.read_eq_none (by simpa using hdigit) ?_, readUse_eq_none (by simpa using hletter),
    bind_of_none (symbol_eq_none (by simpa using hpoint))⟩
  intro others heq
  cases heq
  exact absurd rfl hpoint

/-- A token is read back where it fits and what follows cannot go on with it. -/
theorem readAt_text {token : Token} {position : Position} {rest : Text} (h : token.IsSpelled)
    (hfits : token.fits position = true) (hrest : token.EndsBefore rest) :
    readAt infoMarker position (token.text ++ rest) = some (token, rest) := by
  cases hmark : token.isMark with
  | true =>
      obtain ⟨c, hc, htext, hread⟩ := exists_of_isMark hmark
      obtain ⟨hnumber, huse, hswizzle⟩ := readers_refuse (List.mem_append_right _ hc) rest
      rw [htext]
      exact readAt_punctuation hnumber huse hswizzle (hread rest) hfits
  | false =>
      cases token with
      | number literal => exact readAt_number (Literal.read_text h hrest) hfits
      | wildcard name =>
          refine readAt_wildcard (Literal.read_eq_none ?_ ?_) (readUse_text h hrest) hfits
          · intro c hc
            cases hc
            decide
          · intro others heq
            cases heq
      | swizzle letters =>
          have hletters : ∀ c ∈ (letters ++ rest).head?, isDecimal c = false := by
            obtain ⟨c, others, rfl⟩ := List.exists_cons_of_ne_nil h.ne_nil
            have hc := h.isLetter c (by simp)
            simp only [isComponentLetter, decide_eq_true_eq, List.mem_cons, List.not_mem_nil,
              or_false] at hc
            intro d hd
            cases hd
            rcases hc with rfl | rfl | rfl | rfl | rfl | rfl | rfl | rfl <;> decide
          refine readAt_swizzle (Literal.read_eq_none ?_ ?_) (readUse_eq_none (by simp [text]))
            (readSwizzle_text h hrest) hfits
          · intro c hc
            cases hc
            decide
          · intro others heq
            cases heq
            exact hletters
      | openParen | closeParen | openIndex | closeIndex | plus | minus | times | «over» =>
          cases hmark

theorem mem_endMarks_of_isTokenGap {c : Char} (h : isTokenGap c = true) : c ∈ endMarks := by
  simp only [isTokenGap, Bool.or_eq_true, beq_iff_eq] at h
  rcases h with (((rfl | rfl) | rfl) | rfl) | rfl <;> decide

theorem readAt_gap {c : Char} (h : isTokenGap c = true) (position : Position) (rest : Text) :
    readAt infoMarker position (c :: rest) = none := by
  obtain ⟨hnumber, huse, hswizzle⟩ := readers_refuse (mem_endMarks_of_isTokenGap h) rest
  refine readAt_eq_none hnumber huse hswizzle ?_
  simp only [isTokenGap, Bool.or_eq_true, beq_iff_eq] at h
  rcases h with (((rfl | rfl) | rfl) | rfl) | rfl <;> rfl

end Token

/-! ## What is spelled is read -/

theorem ReadingState.fits_of_step {state next : ReadingState} {token : Token}
    (h : state.step token = some next) : token.fits state.position = true := by
  cases state <;> cases token <;> first | rfl | cases h

theorem Spelled.head {tokens : List Token} {text : Text} (h : Spelled tokens text) :
    ∀ c ∈ text.head?, isTokenGap c = true ∨ ∃ token rest,
      tokens.head? = some token ∧ token.IsSpelled ∧ token.text = c :: rest := by
  cases h with
  | nil hgap => exact fun c hc => Or.inl (hgap c (List.mem_of_mem_head? hc))
  | @cons gap rest token tokens hgap htoken hrest =>
      intro c hc
      cases gap with
      | cons d gap =>
          cases hc
          exact Or.inl (hgap c (by simp))
      | nil =>
          obtain ⟨d, others, htext⟩ := List.exists_cons_of_ne_nil htoken.text_ne_nil
          rw [List.nil_append, htext] at hc
          cases hc
          exact Or.inr ⟨token, others, rfl, htoken, htext⟩

theorem ReadingState.fits_of_run {state : ReadingState} {tokens : List Token} {expr : Expr}
    (h : state.run tokens = some expr) :
    ∀ token ∈ tokens.head?, token.fits state.position = true := by
  intro token htoken
  cases tokens with
  | nil => cases htoken
  | cons first tokens =>
      cases htoken
      obtain ⟨next, hstep, -⟩ := Option.bind_eq_some_iff.mp h
      exact fits_of_step hstep

theorem Spelled.head_mem_endMarks {tokens : List Token} {text : Text} (h : Spelled tokens text)
    (hmark : ∀ token ∈ tokens.head?, token.isMark = true) : EndsNumber text := by
  intro c hc
  rcases h.head c hc with hgap | ⟨token, rest, htoken, -, htext⟩
  · exact Token.mem_endMarks_of_isTokenGap hgap
  · obtain ⟨d, hd, hmark, -⟩ := Token.exists_of_isMark (hmark token htoken)
    rw [htext] at hmark
    cases hmark
    exact List.mem_append_right _ hd

theorem Token.isMark_of_fits {token : Token} {position : Position}
    (h : token.fits position = true) (hposition : position = .operator ∨ position = .indexEnd) :
    token.isMark = true := by
  rcases hposition with rfl | rfl <;> cases token <;> first | rfl | cases h

theorem Token.isMark_or_swizzle_of_fits {token : Token} (h : token.fits .accessor = true) :
    token.isMark = true ∨ ∃ letters, token = .swizzle letters := by
  cases token with
  | number | wildcard => cases h
  | swizzle letters => exact Or.inr ⟨letters, rfl⟩
  | openParen | closeParen | openIndex | closeIndex | plus | minus | times | «over» =>
      exact Or.inl rfl

/-- In an expression no token is followed by something that could go on with it. -/
theorem Token.endsBefore_of_run {state next : ReadingState} {token : Token} {tokens : List Token}
    {text : Text} {expr : Expr} (hstep : state.step token = some next)
    (hrun : next.run tokens = some expr) (h : Spelled tokens text) : token.EndsBefore text := by
  have hfits := ReadingState.fits_of_run hrun
  have hword : EndsNumber text → ∀ c ∈ text.head?, isWord c = false :=
    fun hends => hends.of_endMarks (by decide)
  cases token with
  | number literal =>
      have hposition : next.position = .operator ∨ next.position = .indexEnd := by
        cases state with
        | operand | index =>
            cases hstep
            simp [ReadingState.position]
        | accessor | operator | indexEnd => cases hstep
      exact h.head_mem_endMarks fun other hother => isMark_of_fits (hfits other hother) hposition
  | swizzle letters =>
      have hposition : next.position = .operator := by
        cases state with
        | accessor =>
            cases hstep
            rfl
        | operand | operator | index | indexEnd => cases hstep
      exact hword (h.head_mem_endMarks fun other hother =>
        isMark_of_fits (hfits other hother) (Or.inl hposition))
  | wildcard name =>
      have hposition : next.position = .accessor := by
        cases state with
        | operand =>
            cases hstep
            rfl
        | accessor | operator | index | indexEnd => cases hstep
      intro c hc
      rcases h.head c hc with hgap | ⟨other, rest, hother, -, htext⟩
      · have hmarks : ∀ c ∈ endMarks, isWord c = false := by decide
        exact hmarks c (mem_endMarks_of_isTokenGap hgap)
      · rcases isMark_or_swizzle_of_fits (hposition ▸ hfits other hother) with hmark | ⟨_, rfl⟩
        · have hmark' : ∀ first ∈ tokens.head?, first.isMark = true := by
            intro first hfirst
            rw [hother] at hfirst
            cases hfirst
            exact hmark
          exact hword (h.head_mem_endMarks hmark') c hc
        · cases htext
          decide
  | openParen | closeParen | openIndex | closeIndex | plus | minus | times | «over» => trivial

theorem readFrom_gap {gap text : Text} (hgap : ∀ c ∈ gap, isTokenGap c = true)
    (htext : ∀ c ∈ text.head?, isTokenGap c = false) (state : ReadingState) (column : Nat) :
    ∃ column', readFrom infoMarker 0 state column (gap ++ text)
      = readFrom infoMarker 0 state column' text := by
  cases gap with
  | nil => exact ⟨column, rfl⟩
  | cons c gap =>
      rw [List.forall_mem_cons] at hgap
      obtain ⟨-, hdrop⟩ := longest_run_iff.mpr ⟨rfl, hgap.2, htext⟩
      have hskip := readFrom_of_gap column (Token.readAt_gap hgap.1 state.position (gap ++ text))
        hgap.1
      rwa [hdrop] at hskip

/-- A text that spells tokens is read as the expression that they make. -/
theorem readFrom_of_spelled {tokens : List Token} {text : Text} (h : Spelled tokens text)
    {state : ReadingState} {expr : Expr} (hrun : state.run tokens = some expr) (column : Nat) :
    readFrom infoMarker 0 state column text = .ok expr := by
  induction h generalizing state column with
  | @nil gap hgap =>
      obtain ⟨column', hskip⟩ := @readFrom_gap gap [] hgap (by simp) state column
      have hfinish : state.finish = some expr := hrun
      rw [List.append_nil] at hskip
      rw [hskip, readFrom, hfinish]
  | @cons gap rest token tokens hgap htoken hrest ih =>
      obtain ⟨next, hstep, hrun⟩ := Option.bind_eq_some_iff.mp hrun
      have hread := Token.readAt_text htoken (ReadingState.fits_of_step hstep)
        (Token.endsBefore_of_run hstep hrun hrest)
      -- White space starts no token, so what is read does not start with white space.
      have hhead : ∀ c ∈ (token.text ++ rest).head?, isTokenGap c = false := by
        intro c hc
        by_contra hblank
        obtain ⟨others, heq⟩ := List.head?_eq_some_iff.mp hc
        rw [heq, Token.readAt_gap (by simpa using hblank)] at hread
        cases hread
      obtain ⟨column', hskip⟩ := readFrom_gap hgap hhead state column
      obtain ⟨column'', hnext⟩ := readFrom_of_token column' htoken.text_ne_nil hread hstep
      rw [hskip, hnext]
      exact ih hrun column''

/-- The segments that are read are the spellings of what the grammar derives, and what is read is
the tree of the derivation. -/
theorem readExpr_eq_ok_iff {segment : Text} {expr : Expr} :
    readExpr infoMarker segment = .ok expr ↔
      ∃ tokens, Spelled tokens segment ∧ Derives .sum tokens expr := by
  constructor
  · intro h
    obtain ⟨tokens, htokens, hrun⟩ := exists_tokens_of_readFrom h
    exact ⟨tokens, htokens.spelled, run_operand_eq_some_iff.mp hrun⟩
  · rintro ⟨tokens, hspelled, hderives⟩
    exact readFrom_of_spelled hspelled (run_operand_eq_some_iff.mpr hderives) 1

end ShaderMarkup
