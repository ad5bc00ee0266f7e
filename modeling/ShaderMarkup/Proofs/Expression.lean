import ShaderMarkup.Expression.Evaluate
import ShaderMarkup.Proofs.Reading

/-!
# What an expression is made of

`readFrom` interleaves two things: cutting the text into tokens, and the steps that the tokens make
the state take.  `exists_tokens_of_readFrom` separates them.  `Tokenized marker text tokens` says
that the text consists of the tokens with white space between them, and `ReadingState.run` takes the
steps.

Whatever holds of all tokens holds of the expression that comes out: `Expr.MadeOf p` says that the
literals and wildcards of an expression are tokens with the property `p`, and `run_madeOf` carries
the property through the steps.  They only move operands between the state and its stack, so one
lemma per operation of the state is enough.
-/

namespace ShaderMarkup

open Reader

/-! ## Literals -/

/-- The characters that a number literal is written with. -/
def isNumeric (c : Char) : Bool :=
  isDecimal c || c == '.' || c == 'e' || c == 'E' || c == '+' || c == '-'

theorem isNumeric_of_isDecimal {c : Char} (h : isDecimal c = true) : isNumeric c = true := by
  simp [isNumeric, h]

/-- An exponent as it can be written: a mark, at most one sign, and digits. -/
structure ExponentPart.IsSpelled (part : ExponentPart) : Prop where
  mark : part.mark = 'e' ∨ part.mark = 'E'
  sign : ∀ c ∈ part.sign, c = '+' ∨ c = '-'
  digits : ∀ c ∈ part.digits, isDecimal c = true
  digits_ne : part.digits ≠ []

/-- A literal as it can be written: digits, and a digit in front of the point if none stands
behind it. -/
structure Literal.IsSpelled (literal : Literal) : Prop where
  whole : ∀ c ∈ literal.whole, isDecimal c = true
  fraction : ∀ digits ∈ literal.fraction, ∀ c ∈ digits, isDecimal c = true
  mantissa_ne : literal.whole ≠ [] ∨ ∃ digits, literal.fraction = some digits ∧ digits ≠ []
  exponent : ∀ part ∈ literal.exponent, part.IsSpelled

namespace Literal

theorem readExponent_eq_some {text rest : Text} {exponent : ExponentPart}
    (h : readExponent text = some (exponent, rest)) :
    text = exponentText exponent ++ rest ∧ exponent.IsSpelled := by
  unfold readExponent at h
  simp only [bind_eq_some_iff, optional_eq_some_iff, run1_eq_some_iff, one_eq_some_iff,
    pure_apply, Option.some.injEq, Prod.mk.injEq] at h
  obtain ⟨mark, _, ⟨rfl, hmark⟩, sign, _, hsign, digits, _, ⟨⟨rfl, hdigits, _⟩, hne⟩, rfl, rfl⟩ := h
  have hmark' : mark = 'e' ∨ mark = 'E' := by simpa using hmark
  rcases hsign with ⟨c, rfl, rfl, hc⟩ | ⟨rfl, _, rfl⟩
  · exact ⟨rfl, hmark', by simpa using hc, hdigits, hne⟩
  · exact ⟨rfl, hmark', by simp, hdigits, hne⟩

theorem readMantissa_eq_some {text rest whole : Text} {fraction : Option Text}
    (h : readMantissa text = some ((whole, fraction), rest)) :
    text = whole ++ (fraction.elim [] ('.' :: ·)) ++ rest ∧
      (whole ≠ [] ∨ ∃ digits, fraction = some digits ∧ digits ≠ []) ∧
      (∀ c ∈ whole, isDecimal c = true) ∧
      ∀ digits ∈ fraction, ∀ c ∈ digits, isDecimal c = true := by
  unfold readMantissa at h
  simp only [bind_eq_some_iff, orElse_eq_some_iff, optional_eq_some_iff, run1_eq_some_iff,
    run_eq_some_iff, symbol_eq_some_iff, pure_apply, Option.some.injEq, Prod.mk.injEq] at h
  rcases h with ⟨_, _, ⟨⟨rfl, hwhole, _⟩, hne⟩, _, _, hfraction, ⟨rfl, rfl⟩, rfl⟩ |
    ⟨_, _, _, rfl, digits, _, ⟨⟨rfl, hdigits, _⟩, hne⟩, ⟨rfl, rfl⟩, rfl⟩
  · rcases hfraction with ⟨digits, rfl, _, _, rfl, rfl, hdigits, _⟩ | ⟨rfl, _, rfl⟩
    · exact ⟨by simp, Or.inl hne, hwhole, by simpa using hdigits⟩
    · exact ⟨by simp, Or.inl hne, hwhole, by simp⟩
  · exact ⟨by simp, Or.inr ⟨digits, rfl, hne⟩, by simp, by simpa using hdigits⟩

/-- A literal is read as it is written. -/
theorem read_eq_some {text rest : Text} {literal : Literal}
    (h : Literal.read text = some (literal, rest)) :
    text = literal.text ++ rest ∧ literal.IsSpelled := by
  unfold Literal.read at h
  obtain ⟨⟨whole, fraction⟩, middle, hmantissa, h⟩ := bind_eq_some_iff.mp h
  obtain ⟨exponent, _, hexponent, h⟩ := bind_eq_some_iff.mp h
  cases h
  obtain ⟨rfl, hne, hwhole, hfraction⟩ := readMantissa_eq_some hmantissa
  unfold Literal.text
  rcases optional_eq_some_iff.mp hexponent with ⟨part, rfl, hpart⟩ | ⟨rfl, _, rfl⟩
  · obtain ⟨rfl, hpart'⟩ := readExponent_eq_some hpart
    exact ⟨by simp, hwhole, hfraction, hne, by simpa using hpart'⟩
  · exact ⟨by simp, hwhole, hfraction, hne, by simp⟩

theorem IsSpelled.text_ne_nil {literal : Literal} (h : literal.IsSpelled) : literal.text ≠ [] := by
  unfold Literal.text
  rcases h.mantissa_ne with hne | ⟨digits, hfraction, -⟩
  · simp [hne]
  · simp [hfraction]

theorem isNumeric_of_mem_exponentText {part : ExponentPart} (h : part.IsSpelled) :
    ∀ c ∈ exponentText part, isNumeric c = true := by
  unfold exponentText
  rw [List.cons_append, List.forall_mem_cons, List.forall_mem_append]
  refine ⟨?_, fun c hc => ?_, fun c hc => isNumeric_of_isDecimal (h.digits c hc)⟩
  · rcases h.mark with hmark | hmark <;> rw [hmark] <;> decide
  · rcases h.sign c (Option.mem_toList.mp hc) with rfl | rfl <;> decide

theorem IsSpelled.isNumeric {literal : Literal} (h : literal.IsSpelled) :
    ∀ c ∈ literal.text, isNumeric c = true := by
  unfold Literal.text
  rw [List.forall_mem_append, List.forall_mem_append]
  refine ⟨⟨fun c hc => isNumeric_of_isDecimal (h.whole c hc), ?_⟩, ?_⟩
  · cases hfraction : literal.fraction with
    | none => simp
    | some digits =>
        rw [Option.elim_some, List.forall_mem_cons]
        exact ⟨by decide, fun c hc => isNumeric_of_isDecimal (h.fraction digits hfraction c hc)⟩
  · cases hexponent : literal.exponent with
    | none => simp
    | some part => exact isNumeric_of_mem_exponentText (h.exponent part hexponent)

end Literal

/-! ## Tokens -/

namespace Token

/-- A text that a wildcard's use is read from: the marker that is sought and an identifier. -/
theorem readUse_eq_some {marker text rest name : Text}
    (h : readUse marker text = some (name, rest)) :
    ∃ identifier, text = soughtMarker marker ++ identifier ++ rest ∧ IsIdentifier identifier ∧
      (∀ c ∈ rest.head?, isWord c = false) ∧
      name = identifier.drop (marker.length - (soughtMarker marker).length) := by
  unfold readUse readWildcard at h
  simp only [bind_eq_some_iff, exactly_eq_some_iff, identifier_eq_some_iff, pure_apply,
    Option.some.injEq, Prod.mk.injEq] at h
  obtain ⟨identifier, _, ⟨_, _, rfl, hidentifier, rfl, hrest⟩, rfl, rfl⟩ := h
  exact ⟨identifier, by simp, hidentifier, hrest, rfl⟩

/-- One to four letters that name components. -/
structure IsSwizzle (letters : Text) : Prop where
  ne_nil : letters ≠ []
  length_le : letters.length ≤ 4
  isLetter : ∀ c ∈ letters, isComponentLetter c = true

theorem readSwizzle_eq_some {text rest letters : Text}
    (h : readSwizzle text = some (letters, rest)) :
    text = '.' :: (letters ++ rest) ∧ IsSwizzle letters := by
  unfold readSwizzle at h
  simp only [bind_eq_some_iff, symbol_eq_some_iff, run1_eq_some_iff] at h
  obtain ⟨_, _, rfl, word, _, ⟨⟨rfl, _, _⟩, hne⟩, h⟩ := h
  by_cases hletters : word.length ≤ 4 ∧ word.all isComponentLetter = true
  · erw [if_pos hletters] at h
    cases h
    exact ⟨rfl, hne, hletters.1, by simpa using hletters.2⟩
  · erw [if_neg hletters] at h
    cases h

/-- The brackets and operators of expressions. -/
def punctuationMarks : Text :=
  ['(', ')', '[', ']', '+', '-', '*', '/']

theorem readPunctuation_eq_some {text rest : Text} {token : Token}
    (h : readPunctuation text = some (token, rest)) :
    (∃ c ∈ punctuationMarks, text = c :: rest) ∧
      (∀ literal, token ≠ .number literal) ∧ ∀ name, token ≠ .wildcard name := by
  unfold readPunctuation at h
  split at h
  case h_9 => cases h
  all_goals
    cases h
    exact ⟨⟨_, by decide, rfl⟩, by simp, by simp⟩

/-- What a token is read as: a number, the use of a wildcard, or something else. -/
inductive ReadAs (marker text rest : Text) : Token → Prop
  | number {literal : Literal} (h : Literal.read text = some (literal, rest)) :
      ReadAs marker text rest (.number literal)
  | wildcard {name : Text} (h : readUse marker text = some (name, rest)) :
      ReadAs marker text rest (.wildcard name)
  | swizzle {letters : Text} (h : readSwizzle text = some (letters, rest)) :
      ReadAs marker text rest (.swizzle letters)
  | punctuation {token : Token} (h : readPunctuation text = some (token, rest)) :
      ReadAs marker text rest token

theorem readAs_of_mem_readers {marker text rest : Text} {token : Token} {reader : Reader Token}
    (hreader : reader ∈ readers marker) (h : reader text = some (token, rest)) :
    ReadAs marker text rest token := by
  have hcases : reader = (do let literal ← Literal.read; pure (.number literal)) ∨
      reader = (do let name ← readUse marker; pure (.wildcard name)) ∨
      reader = (do let letters ← readSwizzle; pure (.swizzle letters)) ∨
      reader = readPunctuation := by
    unfold readers at hreader
    dsimp only at hreader
    split at hreader
    · simpa using hreader
    · simp only [List.mem_cons, List.not_mem_nil, or_false] at hreader
      exact or_left_comm.mp hreader
  rcases hcases with rfl | rfl | rfl | rfl
  · obtain ⟨literal, _, hread, h⟩ := bind_eq_some_iff.mp h
    cases h
    exact .number hread
  · obtain ⟨name, _, hread, h⟩ := bind_eq_some_iff.mp h
    cases h
    exact .wildcard hread
  · obtain ⟨letters, _, hread, h⟩ := bind_eq_some_iff.mp h
    cases h
    exact .swizzle hread
  · exact .punctuation h

theorem readAs_of_readAt {marker text rest : Text} {position : Position} {token : Token}
    (h : readAt marker position text = some (token, rest)) : ReadAs marker text rest token := by
  obtain ⟨reader, hreader, h⟩ := List.exists_of_findSome?_eq_some h
  split at h
  next found remaining hread =>
    split at h
    next =>
      cases h
      exact readAs_of_mem_readers hreader hread
    next => cases h
  next => cases h

/-- A token is read off the front of a text, and the characters it is written with are those of
numbers, words, brackets, operators and the marker. -/
theorem ReadAs.exists_written {marker text rest : Text} {token : Token}
    (h : ReadAs marker text rest token) :
    ∃ written, written ≠ [] ∧ text = written ++ rest ∧
      ∀ c ∈ written, isNumeric c = true ∨ isWord c = true ∨ c ∈ punctuationMarks ∨
        c ∈ soughtMarker marker := by
  cases h with
  | number h =>
      obtain ⟨hsplit, hspelled⟩ := Literal.read_eq_some h
      exact ⟨_, hspelled.text_ne_nil, hsplit, fun c hc => Or.inl (hspelled.isNumeric c hc)⟩
  | wildcard h =>
      obtain ⟨identifier, hsplit, hidentifier, _, _⟩ := readUse_eq_some h
      refine ⟨soughtMarker marker ++ identifier, by simp [hidentifier.ne_nil], hsplit, ?_⟩
      intro c hc
      rcases List.mem_append.mp hc with hc | hc
      · exact Or.inr (Or.inr (Or.inr hc))
      · exact Or.inr (Or.inl (hidentifier.isWord c hc))
  | @swizzle letters h =>
      obtain ⟨hsplit, hletters⟩ := readSwizzle_eq_some h
      refine ⟨'.' :: letters, by simp, hsplit, ?_⟩
      intro c hc
      rcases List.mem_cons.mp hc with rfl | hc
      · exact Or.inl (by decide)
      · have hletter := hletters.isLetter c hc
        simp only [isComponentLetter, decide_eq_true_eq, List.mem_cons, List.not_mem_nil,
          or_false] at hletter
        refine Or.inr (Or.inl ?_)
        rcases hletter with rfl | rfl | rfl | rfl | rfl | rfl | rfl | rfl <;> decide
  | punctuation h =>
      obtain ⟨⟨c, hc, hsplit⟩, _⟩ := readPunctuation_eq_some h
      exact ⟨[c], by simp, hsplit, by simpa using Or.inr (Or.inr (Or.inl hc))⟩

end Token

/-! ## Tokens and steps apart -/

/-- The text consists of the tokens, with white space between them. -/
inductive Tokenized (marker : Text) : Text → List Token → Prop
  | nil : Tokenized marker [] []
  | token {written rest : Text} {token : Token} {tokens : List Token} (hne : written ≠ [])
      (hread : Token.ReadAs marker (written ++ rest) rest token)
      (hrest : Tokenized marker rest tokens) : Tokenized marker (written ++ rest) (token :: tokens)
  | gap {gap rest : Text} {tokens : List Token} (hne : gap ≠ [])
      (hgap : ∀ c ∈ gap, isTokenGap c = true) (hrest : Tokenized marker rest tokens) :
      Tokenized marker (gap ++ rest) tokens

/-- The expression that tokens complete from a state on. -/
def ReadingState.run : ReadingState → List Token → Option Expr
  | state, [] => state.finish
  | state, token :: tokens => (state.step token).bind fun next => next.run tokens

/-- Passing characters over is reading on behind them, at some column. -/
theorem readFrom_skip (marker : Text) (skip : Nat) (state : ReadingState) (column : Nat)
    (text : Text) :
    ∃ column', readFrom marker skip state column text
      = readFrom marker 0 state column' (text.drop skip) := by
  induction text generalizing skip column with
  | nil => exact ⟨column, by cases skip <;> simp [readFrom]⟩
  | cons c rest ih =>
      cases skip with
      | zero => exact ⟨column, rfl⟩
      | succ skip =>
          rw [readFrom, List.drop_succ_cons]
          exact ih skip (columnAfter column c)

theorem readFrom_of_token {marker written rest : Text} {state next : ReadingState}
    {token : Token} (column : Nat) (hne : written ≠ [])
    (hread : Token.readAt marker state.position (written ++ rest) = some (token, rest))
    (hstep : state.step token = some next) :
    ∃ column', readFrom marker 0 state column (written ++ rest)
      = readFrom marker 0 next column' rest := by
  obtain ⟨c, front, rfl⟩ := List.exists_cons_of_ne_nil hne
  have hwidth : (c :: (front ++ rest)).length - rest.length - 1 = front.length := by
    simp only [List.length_cons, List.length_append]
    omega
  obtain ⟨column', hskip⟩ := readFrom_skip marker front.length next (columnAfter column c)
    (front ++ rest)
  refine ⟨column', ?_⟩
  rw [List.cons_append] at hread ⊢
  rw [readFrom, hread]
  simp only [hstep, hwidth, hskip, List.drop_left]

theorem readFrom_of_gap {marker rest : Text} {state : ReadingState} {c : Char} (column : Nat)
    (hread : Token.readAt marker state.position (c :: rest) = none) (hc : isTokenGap c = true) :
    ∃ column', readFrom marker 0 state column (c :: rest)
      = readFrom marker 0 state column' (rest.dropWhile isTokenGap) := by
  obtain ⟨column', hskip⟩ := readFrom_skip marker (rest.takeWhile isTokenGap).length state
    (columnAfter column c) rest
  have hdrop : rest.drop (rest.takeWhile isTokenGap).length = rest.dropWhile isTokenGap := by
    have hdrop := @List.drop_left _ (rest.takeWhile isTokenGap) (rest.dropWhile isTokenGap)
    rwa [List.takeWhile_append_dropWhile] at hdrop
  refine ⟨column', ?_⟩
  rw [readFrom, hread]
  simp only [hc, if_true, hskip, hdrop]

/-- Reading that succeeds cuts the text into tokens and runs through them. -/
theorem exists_tokens_of_readFrom {marker text : Text} {state : ReadingState} {column : Nat}
    {expr : Expr} (h : readFrom marker 0 state column text = .ok expr) :
    ∃ tokens, Tokenized marker text tokens ∧ state.run tokens = some expr := by
  induction hlength : text.length using Nat.strong_induction_on generalizing state column text with
  | _ length ih =>
      subst hlength
      cases text with
      | nil =>
          rw [readFrom] at h
          split at h
          next found hfinish =>
            cases h
            exact ⟨[], .nil, hfinish⟩
          next => cases h
      | cons c rest =>
          cases hread : Token.readAt marker state.position (c :: rest) with
          | some result =>
              obtain ⟨token, remaining⟩ := result
              cases hstep : state.step token with
              | none =>
                  rw [readFrom, hread] at h
                  simp only [hstep] at h
                  cases h
              | some next =>
                  obtain ⟨written, hne, hsplit, _⟩ := (Token.readAs_of_readAt hread).exists_written
                  rw [hsplit] at h hread ih ⊢
                  obtain ⟨column', hnext⟩ := readFrom_of_token column hne hread hstep
                  have hlt : remaining.length < (written ++ remaining).length := by
                    have := List.length_pos_iff.mpr hne
                    rw [List.length_append]
                    omega
                  obtain ⟨tokens, htokens, hrun⟩ := ih remaining.length hlt (hnext ▸ h) rfl
                  refine ⟨token :: tokens, .token hne (Token.readAs_of_readAt hread) htokens, ?_⟩
                  rw [ReadingState.run, hstep, Option.bind_some, hrun]
          | none =>
              cases hc : isTokenGap c with
              | false =>
                  rw [readFrom, hread] at h
                  simp only [hc, Bool.false_eq_true, if_false] at h
                  split at h <;> cases h
              | true =>
                  obtain ⟨column', hnext⟩ := readFrom_of_gap column hread hc
                  have hlt : (rest.dropWhile isTokenGap).length < (c :: rest).length :=
                    Nat.lt_succ_of_le (List.dropWhile_suffix _).length_le
                  obtain ⟨tokens, htokens, hrun⟩ := ih _ hlt (hnext ▸ h) rfl
                  refine ⟨tokens, ?_, hrun⟩
                  have hsplit : c :: rest
                      = (c :: rest.takeWhile isTokenGap) ++ rest.dropWhile isTokenGap := by
                    rw [List.cons_append, List.takeWhile_append_dropWhile]
                  rw [hsplit]
                  refine .gap (by simp) ?_ htokens
                  rw [List.forall_mem_cons]
                  exact ⟨hc, fun d hd => List.mem_takeWhile_imp hd⟩

/-! ## Leaves -/

/-- The use of a wildcard comes from tokens with the property. -/
def WildcardUse.MadeOf (p : Token → Prop) (use : WildcardUse) : Prop :=
  p (.wildcard use.name) ∧ ∀ literal ∈ use.indices, p (.number literal)

/-- The leaves of an expression come from tokens with the property. -/
def Expr.MadeOf (p : Token → Prop) : Expr → Prop
  | .number literal => p (.number literal)
  | .wildcard use => use.MadeOf p
  | .neg a | .pos a => a.MadeOf p
  | .add a b | .sub a b | .mul a b | .div a b => a.MadeOf p ∧ b.MadeOf p

/-- What waits in a frame comes from tokens with the property. -/
def Frame.MadeOf (p : Token → Prop) : Frame → Prop
  | .neg | .pos | .paren => True
  | .add left | .sub left | .mul left | .div left => left.MadeOf p

/-- What a state holds comes from tokens with the property. -/
def ReadingState.MadeOf (p : Token → Prop) : ReadingState → Prop
  | .operand stack => ∀ frame ∈ stack, frame.MadeOf p
  | .accessor use stack | .index use stack => use.MadeOf p ∧ ∀ frame ∈ stack, frame.MadeOf p
  | .operator left stack => left.MadeOf p ∧ ∀ frame ∈ stack, frame.MadeOf p
  | .indexEnd use number stack =>
      use.MadeOf p ∧ p (.number number) ∧ ∀ frame ∈ stack, frame.MadeOf p

section MadeOf

variable {p : Token → Prop}

theorem Frame.MadeOf.apply {frame : Frame} {operand : Expr} (hframe : frame.MadeOf p)
    (hoperand : operand.MadeOf p) : (frame.apply operand).MadeOf p := by
  cases frame with
  | neg | pos | paren => exact hoperand
  | add left | sub left | mul left | div left => exact ⟨hframe, hoperand⟩

theorem complete_madeOf (chosen : Frame → Bool) {operand : Expr} {stack : List Frame}
    (hoperand : operand.MadeOf p) (hstack : ∀ frame ∈ stack, frame.MadeOf p) :
    (complete chosen operand stack).1.MadeOf p ∧
      ∀ frame ∈ (complete chosen operand stack).2, frame.MadeOf p := by
  induction stack generalizing operand with
  | nil => exact ⟨hoperand, by simp [complete]⟩
  | cons frame stack ih =>
      rw [List.forall_mem_cons] at hstack
      rw [complete]
      split
      · exact ih (hstack.1.apply hoperand) hstack.2
      · exact ⟨hoperand, List.forall_mem_cons.mpr hstack⟩

theorem continueWith_madeOf {operand : Expr} {stack : List Frame} {token : Token}
    {next : ReadingState} (hoperand : operand.MadeOf p) (hstack : ∀ frame ∈ stack, frame.MadeOf p)
    (h : ReadingState.continueWith operand stack token = some next) : next.MadeOf p := by
  have hall := complete_madeOf Frame.isOperator hoperand hstack
  have htight := complete_madeOf Frame.isTight hoperand hstack
  cases token with
  | plus | minus =>
      cases h
      exact List.forall_mem_cons.mpr hall
  | times | «over» =>
      cases h
      exact List.forall_mem_cons.mpr htight
  | closeParen =>
      rw [ReadingState.continueWith] at h
      split at h
      next inner below heq =>
        cases h
        rw [heq, List.forall_mem_cons] at hall
        exact ⟨hall.1, hall.2.2⟩
      next => cases h
  | number | wildcard | swizzle | openParen | openIndex | closeIndex => cases h

theorem step_madeOf {state next : ReadingState} {token : Token} (hstate : state.MadeOf p)
    (htoken : p token) (h : state.step token = some next) : next.MadeOf p := by
  unfold ReadingState.step at h
  split at h
  next stack literal =>
    cases h
    exact ⟨htoken, hstate⟩
  next stack name =>
    cases h
    exact ⟨⟨htoken, by simp⟩, hstate⟩
  next stack =>
    cases h
    exact List.forall_mem_cons.mpr ⟨trivial, hstate⟩
  next stack =>
    cases h
    exact List.forall_mem_cons.mpr ⟨trivial, hstate⟩
  next stack =>
    cases h
    exact List.forall_mem_cons.mpr ⟨trivial, hstate⟩
  next => cases h
  next use stack letters =>
    cases h
    exact hstate
  next use stack =>
    cases h
    exact hstate
  next use stack _ _ =>
    refine continueWith_madeOf ?_ ?_ h
    · exact hstate.1
    · exact hstate.2
  next left stack => exact continueWith_madeOf hstate.1 hstate.2 h
  next use stack literal =>
    cases h
    exact ⟨hstate.1, htoken, hstate.2⟩
  next => cases h
  next use number stack =>
    cases h
    obtain ⟨⟨hname, hindices⟩, hnumber, hstack⟩ := hstate
    refine ⟨⟨hname, ?_⟩, hstack⟩
    rw [List.forall_mem_append, List.forall_mem_singleton]
    exact ⟨hindices, hnumber⟩
  next => cases h

theorem close_madeOf {operand expr : Expr} {stack : List Frame} (hoperand : operand.MadeOf p)
    (hstack : ∀ frame ∈ stack, frame.MadeOf p)
    (h : ReadingState.close operand stack = some expr) : expr.MadeOf p := by
  have hall := complete_madeOf Frame.isOperator hoperand hstack
  unfold ReadingState.close at h
  split at h
  next found heq =>
    cases h
    rw [heq] at hall
    exact hall.1
  next => cases h

/-- The leaves of an expression come from the tokens that it is read from. -/
theorem run_madeOf {state : ReadingState} {tokens : List Token} {expr : Expr}
    (hstate : state.MadeOf p) (htokens : ∀ token ∈ tokens, p token)
    (h : state.run tokens = some expr) : expr.MadeOf p := by
  induction tokens generalizing state with
  | nil =>
      cases state with
      | accessor use stack =>
          have hclose : ReadingState.close (.wildcard use) stack = some expr := h
          refine close_madeOf ?_ hstate.2 hclose
          exact hstate.1
      | operator left stack => exact close_madeOf hstate.1 hstate.2 h
      | operand | index | indexEnd => cases h
  | cons token tokens ih =>
      rw [List.forall_mem_cons] at htokens
      obtain ⟨next, hstep, h⟩ := Option.bind_eq_some_iff.mp h
      exact ih (step_madeOf hstate htokens.1 hstep) htokens.2 h

end MadeOf

/-- An expression that is read from a segment is made of the segment's tokens. -/
theorem exists_tokens_of_readExpr {marker segment : Text} {expr : Expr}
    (h : readExpr marker segment = .ok expr) :
    ∃ tokens, Tokenized marker segment tokens ∧ expr.MadeOf (· ∈ tokens) := by
  obtain ⟨tokens, htokens, hrun⟩ := exists_tokens_of_readFrom h
  exact ⟨tokens, htokens, run_madeOf (by simp [ReadingState.MadeOf]) (fun _ h => h) hrun⟩

/-! ## Evaluating what is made of tokens -/

theorem Expr.MadeOf.imp {p q : Token → Prop} (himp : ∀ token, p token → q token) {expr : Expr}
    (h : expr.MadeOf p) : expr.MadeOf q := by
  induction expr with
  | number literal => exact himp _ h
  | wildcard use => exact ⟨himp _ h.1, fun literal hliteral => himp _ (h.2 literal hliteral)⟩
  | neg a ih | pos a ih => exact ih h
  | add a b iha ihb | sub a b iha ihb | mul a b iha ihb | div a b iha ihb =>
      exact ⟨iha h.1, ihb h.2⟩

/-! ## Uses of wildcards -/

namespace Expr

/-- The uses of wildcards, from left to right. -/
def leaves : Expr → List WildcardUse
  | .number _ => []
  | .wildcard use => [use]
  | .neg a | .pos a => a.leaves
  | .add a b | .sub a b | .mul a b | .div a b => a.leaves ++ b.leaves

theorem le_height_of_mem_usesAt {expr : Expr} {use : WildcardUse} {level : Nat}
    (h : use ∈ expr.usesAt level) : level ≤ expr.height := by
  induction expr generalizing level with
  | number literal => cases level <;> cases h
  | wildcard found =>
      cases level with
      | zero => exact Nat.zero_le _
      | succ level => cases h
  | neg a ih | pos a ih =>
      cases level with
      | zero => exact Nat.zero_le _
      | succ level => exact Nat.succ_le_succ (ih h)
  | add a b iha ihb | sub a b iha ihb | mul a b iha ihb | div a b iha ihb =>
      cases level with
      | zero => exact Nat.zero_le _
      | succ level =>
          refine Nat.succ_le_succ ?_
          rcases List.mem_append.mp h with h | h
          · exact (iha h).trans (Nat.le_max_left _ _)
          · exact (ihb h).trans (Nat.le_max_right _ _)

theorem exists_mem_usesAt_iff {expr : Expr} {use : WildcardUse} :
    (∃ level, use ∈ expr.usesAt level) ↔ use ∈ expr.leaves := by
  induction expr with
  | number literal => simp [usesAt, leaves]
  | wildcard found =>
      constructor
      · rintro ⟨level, h⟩
        cases level with
        | zero => exact h
        | succ level => cases h
      · intro h
        exact ⟨0, h⟩
  | neg a ih | pos a ih =>
      rw [leaves, ← ih]
      constructor
      · rintro ⟨level, h⟩
        cases level with
        | zero => cases h
        | succ level => exact ⟨level, h⟩
      · rintro ⟨level, h⟩
        exact ⟨level + 1, h⟩
  | add a b iha ihb | sub a b iha ihb | mul a b iha ihb | div a b iha ihb =>
      rw [leaves, List.mem_append, ← iha, ← ihb, ← exists_or]
      constructor
      · rintro ⟨level, h⟩
        cases level with
        | zero => cases h
        | succ level => exact ⟨level, List.mem_append.mp h⟩
      · rintro ⟨level, h⟩
        exact ⟨level + 1, List.mem_append.mpr h⟩

/-- The order of resolution leaves no use out. -/
theorem mem_uses_iff {expr : Expr} {use : WildcardUse} :
    use ∈ expr.uses ↔ use ∈ expr.leaves := by
  rw [← exists_mem_usesAt_iff, uses, List.mem_flatMap]
  simp only [List.mem_reverse, List.mem_range, Nat.lt_succ_iff]
  constructor
  · rintro ⟨level, _, h⟩
    exact ⟨level, h⟩
  · rintro ⟨level, h⟩
    exact ⟨level, le_height_of_mem_usesAt h, h⟩

theorem MadeOf.leaves {p : Token → Prop} {expr : Expr} (h : expr.MadeOf p) :
    ∀ use ∈ expr.leaves, use.MadeOf p := by
  induction expr with
  | number literal => simp [Expr.leaves]
  | wildcard found => exact List.forall_mem_singleton.mpr h
  | neg a ih | pos a ih => exact ih h
  | add a b iha ihb | sub a b iha ihb | mul a b iha ihb | div a b iha ihb =>
      exact List.forall_mem_append.mpr ⟨iha h.1, ihb h.2⟩

/-- The uses of wildcards in an expression are made of the same tokens. -/
theorem MadeOf.uses {p : Token → Prop} {expr : Expr} (h : expr.MadeOf p)
    {use : WildcardUse} (huse : use ∈ expr.uses) : use.MadeOf p :=
  h.leaves use (mem_uses_iff.mp huse)

end Expr

end ShaderMarkup
