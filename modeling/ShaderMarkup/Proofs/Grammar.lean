import ShaderMarkup.Proofs.Expression

/-!
# The grammar of expressions

`Derives` is the grammar: four ranks of phrases, from sums down to atoms, each with the tree that it
stands for.  Operators of one rank group to the left because the grammar is left-recursive, and
parentheses have no tree of their own.

The program knows nothing of ranks.  It keeps a stack of what waits for an operand, and an operator
completes what binds at least as tightly.  `run_operand_eq_some_iff` says that this is the grammar.

* Completeness (`Derives.run_append`): a phrase that is read on a stack it may stand on leaves the
  same state as its tree would.  A sum may stand only on an open parenthesis, a product also on `+`
  and `-`, and a unary phrase anywhere (`Rank.StandsOn`).
* Soundness (`Consumed.step`, `Consumed.derives`): every state has a derivation of what it holds
  behind it.  The stack is cut at its frames (`Stacked`), and completing an operand joins the pieces
  (`complete_tight`, `complete_loose`).
-/

namespace ShaderMarkup

/-! ## The grammar -/

/-- The ranks of phrases, from the loosest to the tightest. -/
inductive Rank where
  | sum
  | product
  | unary
  | atom
deriving DecidableEq

/-- The tokens of an index. -/
def indexTokens (literal : Literal) : List Token :=
  [.openIndex, .number literal, .closeIndex]

/-- The tokens of a wildcard with its indices and its swizzle. -/
def WildcardUse.tokens (use : WildcardUse) : List Token :=
  .wildcard use.name :: (use.indices.flatMap indexTokens ++ (use.swizzle.map Token.swizzle).toList)

/-- The tokens are a phrase of the rank, and the expression is its tree. -/
inductive Derives : Rank → List Token → Expr → Prop
  | product {tokens : List Token} {a : Expr} (h : Derives .product tokens a) :
      Derives .sum tokens a
  | add {left right : List Token} {a b : Expr} (ha : Derives .sum left a)
      (hb : Derives .product right b) : Derives .sum (left ++ .plus :: right) (.add a b)
  | sub {left right : List Token} {a b : Expr} (ha : Derives .sum left a)
      (hb : Derives .product right b) : Derives .sum (left ++ .minus :: right) (.sub a b)
  | unary {tokens : List Token} {a : Expr} (h : Derives .unary tokens a) :
      Derives .product tokens a
  | mul {left right : List Token} {a b : Expr} (ha : Derives .product left a)
      (hb : Derives .unary right b) : Derives .product (left ++ .times :: right) (.mul a b)
  | div {left right : List Token} {a b : Expr} (ha : Derives .product left a)
      (hb : Derives .unary right b) : Derives .product (left ++ .over :: right) (.div a b)
  | atom {tokens : List Token} {a : Expr} (h : Derives .atom tokens a) : Derives .unary tokens a
  | neg {tokens : List Token} {a : Expr} (h : Derives .unary tokens a) :
      Derives .unary (.minus :: tokens) (.neg a)
  | pos {tokens : List Token} {a : Expr} (h : Derives .unary tokens a) :
      Derives .unary (.plus :: tokens) (.pos a)
  | number (literal : Literal) : Derives .atom [.number literal] (.number literal)
  | wildcard (use : WildcardUse) : Derives .atom use.tokens (.wildcard use)
  | paren {tokens : List Token} {a : Expr} (h : Derives .sum tokens a) :
      Derives .atom (.openParen :: (tokens ++ [.closeParen])) a

/-! ## Completing operands -/

theorem complete_of_head {chosen : Frame → Bool} {stack : List Frame}
    (h : ∀ frame ∈ stack.head?, chosen frame = false) (operand : Expr) :
    complete chosen operand stack = (operand, stack) := by
  cases stack with
  | nil => rfl
  | cons frame stack =>
      have hframe : chosen frame = false := h frame rfl
      rw [complete, hframe, if_neg (by decide)]

theorem complete_cons {chosen : Frame → Bool} {frame : Frame} (h : chosen frame = true)
    (operand : Expr) (stack : List Frame) :
    complete chosen operand (frame :: stack) = complete chosen (frame.apply operand) stack := by
  rw [complete, if_pos h]

theorem isOperator_of_isTight {frame : Frame} (h : frame.isTight = true) :
    frame.isOperator = true := by
  cases frame with
  | paren => exact absurd h (by decide)
  | _ => rfl

/-- Completing what binds tightly first makes no difference. -/
theorem complete_isOperator_eq (operand : Expr) (stack : List Frame) :
    complete Frame.isOperator operand stack
      = complete Frame.isOperator (complete Frame.isTight operand stack).1
          (complete Frame.isTight operand stack).2 := by
  induction stack generalizing operand with
  | nil => rfl
  | cons frame stack ih =>
      cases htight : frame.isTight with
      | true => rw [complete_cons htight, complete_cons (isOperator_of_isTight htight), ih]
      | false =>
          have hhead : ∀ other ∈ (frame :: stack).head?, other.isTight = false := by
            simpa using htight
          rw [complete_of_head hhead]

/-! ## Completeness -/

/-- A phrase of the rank may be read on the stack. -/
def Rank.StandsOn (stack : List Frame) : Rank → Prop
  | .sum => ∀ frame ∈ stack.head?, frame.isOperator = false
  | .product => ∀ frame ∈ stack.head?, frame.isTight = false
  | .unary => True
  | .atom => True

/-- A phrase of the rank ends in front of the tokens: what comes next is an operator or a closing
parenthesis, and behind a sum it is no `*` or `/`. -/
def Rank.EndsAt (tokens : List Token) (rank : Rank) : Prop :=
  ∀ token ∈ tokens.head?, token.continues = true ∧
    (rank = .sum → token ≠ .times ∧ token ≠ .over)

theorem Rank.StandsOn.product {stack : List Frame} (h : Rank.sum.StandsOn stack) :
    Rank.product.StandsOn stack := by
  intro frame hframe
  cases htight : frame.isTight with
  | false => rfl
  | true => rw [← h frame hframe, isOperator_of_isTight htight]

theorem Rank.EndsAt.tighter {tokens : List Token} {rank other : Rank} (h : rank.EndsAt tokens)
    (hother : other ≠ .sum) : other.EndsAt tokens :=
  fun token htoken => ⟨(h token htoken).1, fun heq => absurd heq hother⟩

namespace ReadingState

theorem run_cons {state next : ReadingState} {token : Token} (h : state.step token = some next)
    (tokens : List Token) : state.run (token :: tokens) = next.run tokens := by
  rw [run, h, Option.bind_some]

theorem continueWith_of_isTight {frame : Frame} (h : frame.isTight = true) (operand : Expr)
    (stack : List Frame) (token : Token) :
    continueWith operand (frame :: stack) token
      = continueWith (frame.apply operand) stack token := by
  have hoperator := isOperator_of_isTight h
  cases token with
  | plus | minus | times | «over» | closeParen =>
      simp only [continueWith, complete_cons h, complete_cons hoperator]
  | _ => rfl

theorem close_of_isOperator {frame : Frame} (h : frame.isOperator = true) (operand : Expr)
    (stack : List Frame) : close operand (frame :: stack) = close (frame.apply operand) stack := by
  rw [close, close, complete_cons h]

/-- Behind a complete operand, a sign and the left side of `*` or `/` are as good as completed. -/
theorem run_operator_of_isTight {frame : Frame} (h : frame.isTight = true) (operand : Expr)
    (stack : List Frame) (tokens : List Token) :
    (operator operand (frame :: stack)).run tokens
      = (operator (frame.apply operand) stack).run tokens := by
  cases tokens with
  | nil => exact close_of_isOperator (isOperator_of_isTight h) operand stack
  | cons token tokens =>
      show (continueWith operand (frame :: stack) token).bind _
        = (continueWith (frame.apply operand) stack token).bind _
      rw [continueWith_of_isTight h]

theorem run_operator_cons {left : Expr} {stack : List Frame} {token : Token}
    {next : ReadingState} (h : continueWith left stack token = some next) (tokens : List Token) :
    (operator left stack).run (token :: tokens) = next.run tokens := by
  show (continueWith left stack token).bind _ = _
  rw [h, Option.bind_some]

/-- The left side of `+` or `-` is as good as completed where no `*` or `/` follows. -/
theorem run_operator_of_isOperator {frame : Frame} (h : frame.isOperator = true) (operand : Expr)
    (stack : List Frame) {tokens : List Token} (htokens : Rank.sum.EndsAt tokens) :
    (operator operand (frame :: stack)).run tokens
      = (operator (frame.apply operand) stack).run tokens := by
  cases tokens with
  | nil => exact close_of_isOperator h operand stack
  | cons token tokens =>
      obtain ⟨-, hloose⟩ := htokens token rfl
      have hcontinue : continueWith operand (frame :: stack) token
          = continueWith (frame.apply operand) stack token := by
        cases token with
        | plus | minus | closeParen => simp only [continueWith, complete_cons h]
        | times => exact absurd rfl (hloose rfl).1
        | «over» => exact absurd rfl (hloose rfl).2
        | _ => rfl
      show (continueWith operand (frame :: stack) token).bind _
        = (continueWith (frame.apply operand) stack token).bind _
      rw [hcontinue]

/-- Where an operator follows, a wildcard is an operand like any other. -/
theorem run_accessor {rank : Rank} {tokens : List Token} (h : rank.EndsAt tokens)
    (use : WildcardUse) (stack : List Frame) :
    (accessor use stack).run tokens = (operator (.wildcard use) stack).run tokens := by
  cases tokens with
  | nil => rfl
  | cons token tokens =>
      obtain ⟨hcontinues, -⟩ := h token rfl
      cases token with
      | plus | minus | times | «over» | closeParen => rfl
      | _ => exact absurd hcontinues (by simp [Token.continues])

theorem run_indices (use : WildcardUse) (stack : List Frame) (indices : List Literal)
    (tokens : List Token) :
    (accessor use stack).run (indices.flatMap indexTokens ++ tokens)
      = (accessor { use with indices := use.indices ++ indices } stack).run tokens := by
  induction indices generalizing use with
  | nil => simp
  | cons literal indices ih =>
      have hindex : (accessor use stack).run
          (indexTokens literal ++ (indices.flatMap indexTokens ++ tokens))
            = (accessor { use with indices := use.indices ++ [literal] } stack).run
                (indices.flatMap indexTokens ++ tokens) := rfl
      rw [List.flatMap_cons, List.append_assoc, hindex, ih]
      simp

theorem run_use {rank : Rank} {tokens : List Token} (h : rank.EndsAt tokens) (use : WildcardUse)
    (stack : List Frame) :
    (operand stack).run (use.tokens ++ tokens) = (operator (.wildcard use) stack).run tokens := by
  obtain ⟨name, indices, swizzle⟩ := use
  have hname : (operand stack).run
      (WildcardUse.tokens ⟨name, indices, swizzle⟩ ++ tokens)
        = (accessor { name } stack).run (indices.flatMap indexTokens
            ++ ((swizzle.map Token.swizzle).toList ++ tokens)) := by
    rw [← List.append_assoc]
    rfl
  rw [hname, run_indices]
  cases swizzle with
  | none => exact run_accessor h _ stack
  | some letters => rfl

/-- A binary operator: its left side, then its right side on top of the frame that waits for it. -/
theorem run_binary (frame : Frame) (token : Token) {rank : Rank}
    {left right rest : List Token} {a b : Expr} {stack : List Frame}
    (hleft : ∀ {rest}, rank.EndsAt rest →
      (operand stack).run (left ++ rest) = (operator a stack).run rest)
    (htoken : rank.EndsAt [token])
    (hstep : continueWith a stack token = some (operand (frame :: stack)))
    (hright : (operand (frame :: stack)).run (right ++ rest)
      = (operator b (frame :: stack)).run rest)
    (hframe : (operator b (frame :: stack)).run rest
      = (operator (frame.apply b) stack).run rest) :
    (operand stack).run (left ++ token :: right ++ rest)
      = (operator (frame.apply b) stack).run rest := by
  have hends : rank.EndsAt (token :: (right ++ rest)) := htoken
  rw [List.append_assoc, List.cons_append, hleft hends, run_operator_cons hstep, hright, hframe]

end ReadingState

/-- Reading a phrase leads to the state that its tree would lead to. -/
theorem Derives.run_append {rank : Rank} {tokens : List Token} {expr : Expr}
    (h : Derives rank tokens expr) {stack : List Frame} {rest : List Token}
    (hstack : rank.StandsOn stack) (hrest : rank.EndsAt rest) :
    (ReadingState.operand stack).run (tokens ++ rest)
      = (ReadingState.operator expr stack).run rest := by
  induction h generalizing stack rest with
  | product h ih => exact ih hstack.product (hrest.tighter (by decide))
  | @add left right a b ha hb iha ihb =>
      refine ReadingState.run_binary (.add a) .plus (iha hstack)
        (by simp [Rank.EndsAt, Token.continues]) ?_
        (ihb (by simp [Rank.StandsOn, Frame.isTight]) (hrest.tighter (by decide)))
        (ReadingState.run_operator_of_isOperator rfl b stack hrest)
      rw [ReadingState.continueWith, complete_of_head hstack]
  | @sub left right a b ha hb iha ihb =>
      refine ReadingState.run_binary (.sub a) .minus (iha hstack)
        (by simp [Rank.EndsAt, Token.continues]) ?_
        (ihb (by simp [Rank.StandsOn, Frame.isTight]) (hrest.tighter (by decide)))
        (ReadingState.run_operator_of_isOperator rfl b stack hrest)
      rw [ReadingState.continueWith, complete_of_head hstack]
  | unary h ih => exact ih trivial (hrest.tighter (by decide))
  | @mul left right a b ha hb iha ihb =>
      refine ReadingState.run_binary (.mul a) .times (iha hstack)
        (by simp [Rank.EndsAt, Token.continues]) ?_
        (ihb trivial (hrest.tighter (by decide)))
        (ReadingState.run_operator_of_isTight rfl b stack rest)
      rw [ReadingState.continueWith, complete_of_head hstack]
  | @div left right a b ha hb iha ihb =>
      refine ReadingState.run_binary (.div a) .over (iha hstack)
        (by simp [Rank.EndsAt, Token.continues]) ?_
        (ihb trivial (hrest.tighter (by decide)))
        (ReadingState.run_operator_of_isTight rfl b stack rest)
      rw [ReadingState.continueWith, complete_of_head hstack]
  | atom h ih => exact ih trivial (hrest.tighter (by decide))
  | @neg tokens a h ih =>
      have hminus : (ReadingState.operand stack).step .minus
          = some (.operand (.neg :: stack)) := rfl
      rw [List.cons_append, ReadingState.run_cons hminus, ih trivial hrest]
      exact ReadingState.run_operator_of_isTight rfl a stack rest
  | @pos tokens a h ih =>
      have hplus : (ReadingState.operand stack).step .plus
          = some (.operand (.pos :: stack)) := rfl
      rw [List.cons_append, ReadingState.run_cons hplus, ih trivial hrest]
      exact ReadingState.run_operator_of_isTight rfl a stack rest
  | number literal => rfl
  | wildcard use => exact ReadingState.run_use hrest use stack
  | @paren tokens a h ih =>
      have hopen : (ReadingState.operand stack).step .openParen
          = some (.operand (.paren :: stack)) := rfl
      have hstands : Rank.sum.StandsOn (.paren :: stack) := by
        simp [Rank.StandsOn, Frame.isOperator]
      have hclose : ReadingState.continueWith a (.paren :: stack) .closeParen
          = some (.operator a stack) := by
        rw [ReadingState.continueWith, complete_of_head hstands]
      rw [List.cons_append, ReadingState.run_cons hopen, List.append_assoc, List.singleton_append,
        ih hstands (by simp [Rank.EndsAt, Token.continues]), ReadingState.run_operator_cons hclose]

/-! ## Soundness -/

/-- The tokens that a stack of frames was read from.  In front of what an operator waits for stands
its left side, a phrase of the operator's rank. -/
inductive Stacked : List Frame → List Token → Prop
  | nil : Stacked [] []
  | paren {stack : List Frame} {tokens : List Token} (h : Stacked stack tokens) :
      Stacked (.paren :: stack) (tokens ++ [.openParen])
  | neg {stack : List Frame} {tokens : List Token} (h : Stacked stack tokens) :
      Stacked (.neg :: stack) (tokens ++ [.minus])
  | pos {stack : List Frame} {tokens : List Token} (h : Stacked stack tokens) :
      Stacked (.pos :: stack) (tokens ++ [.plus])
  | add {stack : List Frame} {tokens left : List Token} {a : Expr} (h : Stacked stack tokens)
      (hstands : Rank.sum.StandsOn stack) (ha : Derives .sum left a) :
      Stacked (.add a :: stack) (tokens ++ left ++ [.plus])
  | sub {stack : List Frame} {tokens left : List Token} {a : Expr} (h : Stacked stack tokens)
      (hstands : Rank.sum.StandsOn stack) (ha : Derives .sum left a) :
      Stacked (.sub a :: stack) (tokens ++ left ++ [.minus])
  | mul {stack : List Frame} {tokens left : List Token} {a : Expr} (h : Stacked stack tokens)
      (hstands : Rank.product.StandsOn stack) (ha : Derives .product left a) :
      Stacked (.mul a :: stack) (tokens ++ left ++ [.times])
  | div {stack : List Frame} {tokens left : List Token} {a : Expr} (h : Stacked stack tokens)
      (hstands : Rank.product.StandsOn stack) (ha : Derives .product left a) :
      Stacked (.div a :: stack) (tokens ++ left ++ [.over])

/-- The tokens are those of a stack, followed by a phrase of the rank that may stand on it. -/
def Splits (rank : Rank) (tokens : List Token) (expr : Expr) (stack : List Frame) : Prop :=
  ∃ front phrase, tokens = front ++ phrase ∧ Stacked stack front ∧ Derives rank phrase expr ∧
    rank.StandsOn stack

theorem splits_of_standsOn {stack : List Frame} {front phrase : List Token} {operand : Expr}
    (hstands : Rank.product.StandsOn stack) (hstack : Stacked stack front)
    (hoperand : Derives .unary phrase operand) :
    Splits .product (front ++ phrase) (complete Frame.isTight operand stack).1
      (complete Frame.isTight operand stack).2 := by
  rw [complete_of_head hstands]
  exact ⟨front, phrase, rfl, hstack, .unary hoperand, hstands⟩

/-- Completing a unary phrase with what binds tightly gives a product. -/
theorem complete_tight {stack : List Frame} {front phrase : List Token} {operand : Expr}
    (hstack : Stacked stack front) (hoperand : Derives .unary phrase operand) :
    Splits .product (front ++ phrase) (complete Frame.isTight operand stack).1
      (complete Frame.isTight operand stack).2 := by
  induction hstack generalizing phrase operand with
  | nil => exact splits_of_standsOn (by simp [Rank.StandsOn]) .nil hoperand
  | paren h =>
      exact splits_of_standsOn (by simp [Rank.StandsOn, Frame.isTight]) (.paren h) hoperand
  | @neg stack tokens h ih =>
      rw [complete_cons rfl, List.append_assoc, List.singleton_append]
      exact ih (.neg hoperand)
  | @pos stack tokens h ih =>
      rw [complete_cons rfl, List.append_assoc, List.singleton_append]
      exact ih (.pos hoperand)
  | add h hstands ha =>
      exact splits_of_standsOn (by simp [Rank.StandsOn, Frame.isTight]) (.add h hstands ha) hoperand
  | sub h hstands ha =>
      exact splits_of_standsOn (by simp [Rank.StandsOn, Frame.isTight]) (.sub h hstands ha) hoperand
  | @mul stack tokens left a h hstands ha ih =>
      rw [complete_cons rfl, complete_of_head hstands]
      exact ⟨tokens, left ++ .times :: phrase, by simp, h, .mul ha hoperand, hstands⟩
  | @div stack tokens left a h hstands ha ih =>
      rw [complete_cons rfl, complete_of_head hstands]
      exact ⟨tokens, left ++ .over :: phrase, by simp, h, .div ha hoperand, hstands⟩

/-- Completing a unary phrase with all operators gives a sum. -/
theorem complete_loose {stack : List Frame} {front phrase : List Token} {operand : Expr}
    (hstack : Stacked stack front) (hoperand : Derives .unary phrase operand) :
    Splits .sum (front ++ phrase) (complete Frame.isOperator operand stack).1
      (complete Frame.isOperator operand stack).2 := by
  rw [complete_isOperator_eq]
  obtain ⟨front, phrase, htokens, hstack, hoperand, hstands⟩ := complete_tight hstack hoperand
  generalize complete Frame.isTight operand stack = completed at hstack hoperand hstands ⊢
  obtain ⟨operand, stack⟩ := completed
  dsimp only at hstack hoperand hstands ⊢
  rw [htokens]
  -- Nothing on top binds tightly any more, so at most one `+` or `-` is left above a parenthesis.
  cases hstack with
  | nil => exact ⟨[], phrase, rfl, .nil, .product hoperand, by simp [complete, Rank.StandsOn]⟩
  | @paren stack tokens h =>
      exact ⟨_, phrase, rfl, .paren h, .product hoperand,
        by simp [complete, Rank.StandsOn, Frame.isOperator]⟩
  | @add stack tokens left a h hloose ha =>
      rw [complete_cons rfl, complete_of_head hloose]
      exact ⟨tokens, left ++ .plus :: phrase, by simp, h, .add ha hoperand, hloose⟩
  | @sub stack tokens left a h hloose ha =>
      rw [complete_cons rfl, complete_of_head hloose]
      exact ⟨tokens, left ++ .minus :: phrase, by simp, h, .sub ha hoperand, hloose⟩
  | neg | pos | mul | div => exact absurd (hstands _ rfl) (by simp [Frame.isTight])

/-- What a state has been read from. -/
inductive Consumed : ReadingState → List Token → Prop
  | operand {stack : List Frame} {tokens : List Token} (h : Stacked stack tokens) :
      Consumed (.operand stack) tokens
  | accessor {stack : List Frame} {tokens : List Token} {use : WildcardUse}
      (h : Stacked stack tokens) (huse : use.swizzle = none) :
      Consumed (.accessor use stack) (tokens ++ use.tokens)
  | operator {stack : List Frame} {tokens phrase : List Token} {left : Expr}
      (h : Stacked stack tokens) (hleft : Derives .atom phrase left) :
      Consumed (.operator left stack) (tokens ++ phrase)
  | index {stack : List Frame} {tokens : List Token} {use : WildcardUse}
      (h : Stacked stack tokens) (huse : use.swizzle = none) :
      Consumed (.index use stack) (tokens ++ use.tokens ++ [.openIndex])
  | indexEnd {stack : List Frame} {tokens : List Token} {use : WildcardUse} {literal : Literal}
      (h : Stacked stack tokens) (huse : use.swizzle = none) :
      Consumed (.indexEnd use literal stack)
        (tokens ++ use.tokens ++ [.openIndex, .number literal])

theorem WildcardUse.tokens_index {use : WildcardUse} (h : use.swizzle = none)
    (literal : Literal) : WildcardUse.tokens { use with indices := use.indices ++ [literal] }
      = use.tokens ++ indexTokens literal := by
  simp [WildcardUse.tokens, h]

theorem WildcardUse.tokens_swizzle {use : WildcardUse} (h : use.swizzle = none)
    (letters : Text) : WildcardUse.tokens { use with swizzle := some letters }
      = use.tokens ++ [.swizzle letters] := by
  simp [WildcardUse.tokens, h]

theorem Consumed.continueWith {stack : List Frame} {front phrase : List Token} {operand : Expr}
    {token : Token} {next : ReadingState} (hstack : Stacked stack front)
    (hoperand : Derives .atom phrase operand)
    (h : ReadingState.continueWith operand stack token = some next) :
    Consumed next (front ++ phrase ++ [token]) := by
  obtain ⟨loose, sum, hloose, hbelow, hsum, hstands⟩ := complete_loose hstack (.atom hoperand)
  obtain ⟨tight, product, htight, hunder, hproduct, hstands'⟩ :=
    complete_tight hstack (.atom hoperand)
  cases token with
  | plus =>
      cases h
      rw [hloose]
      exact .operand (.add hbelow hstands hsum)
  | minus =>
      cases h
      rw [hloose]
      exact .operand (.sub hbelow hstands hsum)
  | times =>
      cases h
      rw [htight]
      exact .operand (.mul hunder hstands' hproduct)
  | «over» =>
      cases h
      rw [htight]
      exact .operand (.div hunder hstands' hproduct)
  | closeParen =>
      rw [ReadingState.continueWith] at h
      split at h
      next inner below heq =>
        cases h
        rw [heq] at hbelow hsum
        cases hbelow with
        | @paren _ outer hbelow =>
            rw [hloose]
            have hparen := Consumed.operator hbelow (.paren hsum)
            simpa using hparen
      next => cases h
  | number | wildcard | swizzle | openParen | openIndex | closeIndex => cases h

/-- One step: the token joins what the state has been read from. -/
theorem Consumed.step {state next : ReadingState} {tokens : List Token} {token : Token}
    (hstate : Consumed state tokens) (h : state.step token = some next) :
    Consumed next (tokens ++ [token]) := by
  cases hstate with
  | operand hstack =>
      cases token with
      | number literal =>
          cases h
          exact .operator hstack (.number literal)
      | wildcard name =>
          cases h
          have huse := @Consumed.accessor _ _ { name } hstack rfl
          exact huse
      | openParen =>
          cases h
          exact .operand (.paren hstack)
      | plus =>
          cases h
          exact .operand (.pos hstack)
      | minus =>
          cases h
          exact .operand (.neg hstack)
      | swizzle | closeParen | openIndex | closeIndex | times | «over» => cases h
  | @accessor stack front use hstack huse =>
      cases token with
      | swizzle letters =>
          cases h
          rw [List.append_assoc, ← WildcardUse.tokens_swizzle huse]
          exact .operator hstack (.wildcard _)
      | openIndex =>
          cases h
          exact .index hstack huse
      | number | wildcard | openParen | closeParen | closeIndex | plus | minus | times | «over» =>
          exact .continueWith hstack (.wildcard use) h
  | operator hstack hleft => exact .continueWith hstack hleft h
  | @index stack front use hstack huse =>
      cases token with
      | number literal =>
          cases h
          rw [List.append_assoc]
          exact .indexEnd hstack huse
      | wildcard | swizzle | openParen | closeParen | openIndex | closeIndex | plus | minus | times
      | «over» => cases h
  | @indexEnd stack front use literal hstack huse =>
      cases token with
      | closeIndex =>
          cases h
          have hindexed := @Consumed.accessor _ _ { use with indices := use.indices ++ [literal] }
            hstack huse
          rw [WildcardUse.tokens_index huse] at hindexed
          simpa [indexTokens] using hindexed
      | number | wildcard | swizzle | openParen | closeParen | openIndex | plus | minus | times
      | «over» => cases h

/-- What a state that has come to its end has been read from is a sum. -/
theorem Consumed.derives {state : ReadingState} {tokens : List Token} {expr : Expr}
    (hstate : Consumed state tokens) (h : state.finish = some expr) :
    Derives .sum tokens expr := by
  have hclose : ∀ {stack : List Frame} {front phrase : List Token} {operand : Expr},
      Stacked stack front → Derives .atom phrase operand →
        ReadingState.close operand stack = some expr → Derives .sum (front ++ phrase) expr := by
    intro stack front phrase operand hstack hoperand h
    obtain ⟨outer, sum, htokens, hbelow, hsum, -⟩ := complete_loose hstack (.atom hoperand)
    rw [ReadingState.close] at h
    split at h
    next found heq =>
      cases h
      rw [heq] at hbelow hsum
      cases hbelow
      rwa [htokens]
    next => cases h
  cases hstate with
  | accessor hstack huse => exact hclose hstack (.wildcard _) h
  | operator hstack hleft => exact hclose hstack hleft h
  | operand | index | indexEnd => cases h

/-- A whole run: what comes out has a derivation from all tokens. -/
theorem Consumed.run {state : ReadingState} {front tokens : List Token} {expr : Expr}
    (hstate : Consumed state front) (h : state.run tokens = some expr) :
    Derives .sum (front ++ tokens) expr := by
  induction tokens generalizing state front with
  | nil =>
      rw [List.append_nil]
      exact hstate.derives h
  | cons token tokens ih =>
      obtain ⟨next, hstep, h⟩ := Option.bind_eq_some_iff.mp h
      rw [← List.singleton_append, ← List.append_assoc]
      exact ih (hstate.step hstep) h

/-- The tokens that the program makes an expression of are those that the grammar derives, and the
expression is the tree of the derivation. -/
theorem run_operand_eq_some_iff {tokens : List Token} {expr : Expr} :
    (ReadingState.operand []).run tokens = some expr ↔ Derives .sum tokens expr := by
  constructor
  · intro h
    exact Consumed.run (.operand .nil) h
  · intro h
    have hstands : Rank.sum.StandsOn [] := by simp [Rank.StandsOn]
    have hends : Rank.sum.EndsAt [] := by simp [Rank.EndsAt]
    have hrun := h.run_append hstands hends
    rw [List.append_nil] at hrun
    rw [hrun]
    rfl

end ShaderMarkup
