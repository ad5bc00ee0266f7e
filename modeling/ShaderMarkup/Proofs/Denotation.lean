import ShaderMarkup.Proofs.Numeral
import ShaderMarkup.Proofs.Selection
import ShaderMarkup.Proofs.Spelling

/-!
# What expressions mean

A tree is written as a phrase, which has the parentheses that the tree has not.  It is bracketed
when every operand is tight enough for its place, in parentheses if need be; then the grammar gives
its tree back (`Phrase.derives`), and every tree has such a phrase (`Expr.tree_phrase`,
`Expr.isBracketed_phrase`).

The meaning of a tree is given by recursion over it, one component at a time (`Expr.Evaluates`).
At a wildcard it is the component that the accessors pick (`Expr.evaluates_wildcard_iff`).
How many components there are is decided by its wildcards alone (`Expr.HasWidth`), and
`evaluateExpr_eq_ok_iff` says that evaluation yields these components and nothing else.  Where
everything is an integer there is no rounding: `Expr.integer?` is computed in the integers.
-/

namespace ShaderMarkup

/-! ## Phrases -/

/-- How tightly a phrase of the rank binds. -/
def Rank.level : Rank → Nat
  | .sum => 0
  | .product => 1
  | .unary => 2
  | .atom => 3

/-- What is tight enough for a place is tight enough for every looser one. -/
theorem Derives.loosen {rank looser : Rank} {tokens : List Token} {expr : Expr}
    (h : Derives rank tokens expr) (hle : looser.level ≤ rank.level) :
    Derives looser tokens expr := by
  cases rank with
  | sum =>
      cases looser with
      | sum => exact h
      | _ => exact absurd hle (by decide)
  | product =>
      cases looser with
      | sum => exact .product h
      | product => exact h
      | _ => exact absurd hle (by decide)
  | unary =>
      cases looser with
      | sum => exact .product (.unary h)
      | product => exact .unary h
      | unary => exact h
      | atom => exact absurd hle (by decide)
  | atom =>
      cases looser with
      | sum => exact .product (.unary (.atom h))
      | product => exact .unary (.atom h)
      | unary => exact .atom h
      | atom => exact h

/-- An expression as it is written, with its parentheses. -/
inductive Phrase where
  | number (literal : Literal)
  | wildcard (use : WildcardUse)
  | neg (operand : Phrase)
  | pos (operand : Phrase)
  | add (left right : Phrase)
  | sub (left right : Phrase)
  | mul (left right : Phrase)
  | div (left right : Phrase)
  | paren (inner : Phrase)

namespace Phrase

/-- The expression that is written. -/
def tree : Phrase → Expr
  | .number literal => .number literal
  | .wildcard use => .wildcard use
  | .neg a => .neg a.tree
  | .pos a => .pos a.tree
  | .add a b => .add a.tree b.tree
  | .sub a b => .sub a.tree b.tree
  | .mul a b => .mul a.tree b.tree
  | .div a b => .div a.tree b.tree
  | .paren a => a.tree

/-- The tokens that it is written with. -/
def tokens : Phrase → List Token
  | .number literal => [.number literal]
  | .wildcard use => use.tokens
  | .neg a => .minus :: a.tokens
  | .pos a => .plus :: a.tokens
  | .add a b => a.tokens ++ .plus :: b.tokens
  | .sub a b => a.tokens ++ .minus :: b.tokens
  | .mul a b => a.tokens ++ .times :: b.tokens
  | .div a b => a.tokens ++ .over :: b.tokens
  | .paren a => .openParen :: (a.tokens ++ [.closeParen])

/-- The tightest rank of the phrase. -/
def rank : Phrase → Rank
  | .add _ _ | .sub _ _ => .sum
  | .mul _ _ | .div _ _ => .product
  | .neg _ | .pos _ => .unary
  | .number _ | .wildcard _ | .paren _ => .atom

/-- Every operand that binds too loosely for its place is in parentheses.  Others may be, too. -/
def IsBracketed : Phrase → Prop
  | .number _ | .wildcard _ => True
  | .neg a | .pos a => a.IsBracketed ∧ Rank.unary.level ≤ a.rank.level
  | .add a b | .sub a b => a.IsBracketed ∧ b.IsBracketed ∧ Rank.product.level ≤ b.rank.level
  | .mul a b | .div a b =>
      a.IsBracketed ∧ b.IsBracketed ∧
        Rank.product.level ≤ a.rank.level ∧ Rank.unary.level ≤ b.rank.level
  | .paren a => a.IsBracketed

/-- The tokens of a bracketed phrase derive its tree. -/
theorem derives {phrase : Phrase} (h : phrase.IsBracketed) :
    Derives phrase.rank phrase.tokens phrase.tree := by
  induction phrase with
  | number literal => exact .number literal
  | wildcard use => exact .wildcard use
  | neg a ih =>
      obtain ⟨ha, htight⟩ := h
      exact .neg ((ih ha).loosen htight)
  | pos a ih =>
      obtain ⟨ha, htight⟩ := h
      exact .pos ((ih ha).loosen htight)
  | add a b iha ihb =>
      obtain ⟨ha, hb, htight⟩ := h
      exact .add ((iha ha).loosen (Nat.zero_le _)) ((ihb hb).loosen htight)
  | sub a b iha ihb =>
      obtain ⟨ha, hb, htight⟩ := h
      exact .sub ((iha ha).loosen (Nat.zero_le _)) ((ihb hb).loosen htight)
  | mul a b iha ihb =>
      obtain ⟨ha, hb, hleft, hright⟩ := h
      exact .mul ((iha ha).loosen hleft) ((ihb hb).loosen hright)
  | div a b iha ihb =>
      obtain ⟨ha, hb, hleft, hright⟩ := h
      exact .div ((iha ha).loosen hleft) ((ihb hb).loosen hright)
  | paren a ih => exact .paren ((ih h).loosen (Nat.zero_le _))

/-- The phrase in a place of the rank, in parentheses if it binds too loosely. -/
def within (place : Rank) (phrase : Phrase) : Phrase :=
  if place.level ≤ phrase.rank.level then phrase else .paren phrase

theorem tree_within (place : Rank) (phrase : Phrase) :
    (phrase.within place).tree = phrase.tree := by
  unfold within
  split
  · rfl
  · rfl

theorem isBracketed_within (place : Rank) {phrase : Phrase} (h : phrase.IsBracketed) :
    (phrase.within place).IsBracketed := by
  unfold within
  split
  · exact h
  · exact h

theorem level_le_level_within (place : Rank) (phrase : Phrase) :
    place.level ≤ (phrase.within place).rank.level := by
  unfold within
  split
  next htight => exact htight
  next => cases place <;> exact Nat.le_of_ble_eq_true rfl

end Phrase

namespace Expr

/-- The phrase of an expression with no more parentheses than it needs. -/
def phrase : Expr → Phrase
  | .number literal => .number literal
  | .wildcard use => .wildcard use
  | .neg a => .neg (a.phrase.within .unary)
  | .pos a => .pos (a.phrase.within .unary)
  | .add a b => .add a.phrase (b.phrase.within .product)
  | .sub a b => .sub a.phrase (b.phrase.within .product)
  | .mul a b => .mul (a.phrase.within .product) (b.phrase.within .unary)
  | .div a b => .div (a.phrase.within .product) (b.phrase.within .unary)

theorem tree_phrase (expr : Expr) : expr.phrase.tree = expr := by
  induction expr with
  | number literal => rfl
  | wildcard use => rfl
  | neg a ih | pos a ih => rw [phrase, Phrase.tree, Phrase.tree_within, ih]
  | add a b iha ihb | sub a b iha ihb =>
      rw [phrase, Phrase.tree, Phrase.tree_within, iha, ihb]
  | mul a b iha ihb | div a b iha ihb =>
      rw [phrase, Phrase.tree, Phrase.tree_within, Phrase.tree_within, iha, ihb]

theorem isBracketed_phrase (expr : Expr) : expr.phrase.IsBracketed := by
  induction expr with
  | number literal => trivial
  | wildcard use => trivial
  | neg a ih | pos a ih =>
      exact ⟨Phrase.isBracketed_within _ ih, Phrase.level_le_level_within _ _⟩
  | add a b iha ihb | sub a b iha ihb =>
      exact ⟨iha, Phrase.isBracketed_within _ ihb, Phrase.level_le_level_within _ _⟩
  | mul a b iha ihb | div a b iha ihb =>
      exact ⟨Phrase.isBracketed_within _ iha, Phrase.isBracketed_within _ ihb,
        Phrase.level_le_level_within _ _, Phrase.level_le_level_within _ _⟩

end Expr

/-! ## One component -/

namespace Expr

/-- The expression has this value at a component of the wildcards. -/
inductive Evaluates (environment : Environment) (component : Nat) : Expr → Number → Prop
  | number {literal : Literal} {value : Number} (h : literal.value? = some value) :
      Evaluates environment component (.number literal) value
  | wildcard {use : WildcardUse} {values : List Number} (h : use.resolve environment = .ok values) :
      Evaluates environment component (.wildcard use) (componentOf values component)
  | neg {a : Expr} {x : Number} (ha : Evaluates environment component a x) :
      Evaluates environment component (.neg a) x.neg
  | pos {a : Expr} {x : Number} (ha : Evaluates environment component a x) :
      Evaluates environment component (.pos a) x
  | add {a b : Expr} {x y z : Number} (ha : Evaluates environment component a x)
      (hb : Evaluates environment component b y) (h : x.add y = .ok z) :
      Evaluates environment component (.add a b) z
  | sub {a b : Expr} {x y z : Number} (ha : Evaluates environment component a x)
      (hb : Evaluates environment component b y) (h : x.sub y = .ok z) :
      Evaluates environment component (.sub a b) z
  | mul {a b : Expr} {x y z : Number} (ha : Evaluates environment component a x)
      (hb : Evaluates environment component b y) (h : x.mul y = .ok z) :
      Evaluates environment component (.mul a b) z
  | div {a b : Expr} {x y z : Number} (ha : Evaluates environment component a x)
      (hb : Evaluates environment component b y) (h : x.div y = .ok z) :
      Evaluates environment component (.div a b) z

end Expr

theorem arithmetic_eq_ok_iff {segment : Text} {result : Except ArithmeticFault Number}
    {value : Number} : arithmetic segment result = .ok value ↔ result = .ok value := by
  cases result with
  | ok found => simp [arithmetic]
  | error fault => cases fault <;> simp [arithmetic, refuse]

section Component

variable {environment : Environment} {segment : Text} {component : Nat}

/-- An operator has a value when its operands have values and it has one for them. -/
theorem bind_arithmetic_eq_ok_iff {left right : Check Number}
    {operation : Number → Number → Except ArithmeticFault Number} {value : Number} :
    (do let x ← left
        let y ← right
        arithmetic segment (operation x y)) = .ok value ↔
      ∃ x y, left = .ok x ∧ right = .ok y ∧ operation x y = .ok value := by
  simp only [bind_eq_ok_iff, arithmetic_eq_ok_iff]
  constructor
  · rintro ⟨x, hx, y, hy, h⟩
    exact ⟨x, y, hx, hy, h⟩
  · rintro ⟨x, y, hx, hy, h⟩
    exact ⟨x, hx, y, hy, h⟩

theorem eval_eq_ok_iff {expr : Expr} {value : Number} :
    expr.eval segment (fun use => do
        let values ← use.resolve environment
        pure (componentOf values component)) = .ok value ↔
      expr.Evaluates environment component value := by
  induction expr generalizing value with
  | number literal =>
      rw [Expr.eval]
      constructor
      · intro h
        split at h
        next found hfound =>
          cases h
          exact .number hfound
        next => cases h
      · rintro ⟨h⟩
        rw [h]
  | wildcard use =>
      rw [Expr.eval, bind_eq_ok_iff]
      constructor
      · rintro ⟨values, hvalues, h⟩
        cases h
        exact .wildcard hvalues
      · intro h
        cases h with
        | wildcard h => exact ⟨_, h, rfl⟩
  | neg a ih =>
      rw [Expr.eval, bind_eq_ok_iff]
      constructor
      · rintro ⟨x, hx, h⟩
        cases h
        exact .neg (ih.mp hx)
      · intro h
        cases h with
        | neg ha => exact ⟨_, ih.mpr ha, rfl⟩
  | pos a ih =>
      rw [Expr.eval, ih]
      constructor
      · exact .pos
      · intro h
        cases h with
        | pos ha => exact ha
  | add a b iha ihb | sub a b iha ihb | mul a b iha ihb | div a b iha ihb =>
      -- There is one rule for each operator, so the rule need not be named.
      rw [Expr.eval, bind_arithmetic_eq_ok_iff]
      constructor
      · rintro ⟨x, y, hx, hy, h⟩
        constructor
        · exact iha.mp hx
        · exact ihb.mp hy
        · exact h
      · intro h
        cases h
        next ha hb h => exact ⟨_, _, iha.mpr ha, ihb.mpr hb, h⟩

/-- The value at a use of a wildcard is the component of what its indices and its swizzle pick. -/
theorem Expr.evaluates_wildcard_iff {use : WildcardUse} {value : Number}
    (hswizzle : ∀ letters ∈ use.swizzle, Token.IsSwizzle letters) :
    (Expr.wildcard use).Evaluates environment component value ↔
      ∃ picked, use.Selects environment picked ∧ componentOf picked component = value := by
  constructor
  · intro h
    cases h with
    | wildcard h => exact ⟨_, (resolve_eq_ok_iff_selects hswizzle).mp h, rfl⟩
  · rintro ⟨picked, hpicked, rfl⟩
    exact .wildcard ((resolve_eq_ok_iff_selects hswizzle).mpr hpicked)

theorem evaluateComponent_eq_ok_iff {expr : Expr} {value : Number} :
    evaluateComponent environment segment expr component = .ok value ↔
      expr.Evaluates environment component value ∧ value.IsSound := by
  rw [evaluateComponent, bind_eq_ok_iff]
  constructor
  · rintro ⟨found, hfound, hfinite⟩
    obtain ⟨rfl, hsound⟩ := checkFinite_eq_ok_iff.mp hfinite
    exact ⟨eval_eq_ok_iff.mp hfound, hsound⟩
  · rintro ⟨h, hsound⟩
    exact ⟨value, eval_eq_ok_iff.mpr h, checkFinite_eq_ok_iff.mpr ⟨rfl, hsound⟩⟩

end Component

/-! ## How many components there are -/

theorem mem_vectorWidths_iff {resolved : List (List Number)} {width : Nat} :
    width ∈ vectorWidths resolved ↔
      (2 ≤ width ∧ width ≤ 4) ∧ ∃ values ∈ resolved, values.length = width := by
  have hrange : width ∈ [2, 3, 4] ↔ 2 ≤ width ∧ width ≤ 4 := by
    simp only [List.mem_cons, List.not_mem_nil, or_false]
    omega
  rw [vectorWidths, List.mem_filter, hrange]
  simp only [List.any_eq_true, decide_eq_true_iff]

/-- The vectors have this width, apart from single numbers; and it is one if there are only such. -/
structure AgreeOn (resolved : List (List Number)) (width : Nat) : Prop where
  agree : ∀ values ∈ resolved, values.length = 1 ∨ values.length = width
  attained : width = 1 ∨ ∃ values ∈ resolved, values.length = width

section Widths

variable {resolved : List (List Number)}
  (hlength : ∀ values ∈ resolved, 1 ≤ values.length ∧ values.length ≤ 4)
include hlength

theorem length_mem_vectorWidths {values : List Number} (hvalues : values ∈ resolved)
    (hne : values.length ≠ 1) : values.length ∈ vectorWidths resolved := by
  have hrange := hlength values hvalues
  exact mem_vectorWidths_iff.mpr ⟨by omega, values, hvalues, rfl⟩

theorem agreeOn_headD_vectorWidths (hshort : ¬1 < (vectorWidths resolved).length) :
    AgreeOn resolved ((vectorWidths resolved).headD 1) := by
  have hmem := fun values => @length_mem_vectorWidths _ hlength values
  match hwidths : vectorWidths resolved with
  | [] =>
      rw [hwidths] at hmem
      refine ⟨fun values hvalues => Or.inl ?_, Or.inl rfl⟩
      by_contra hne
      cases hmem values hvalues hne
  | [width] =>
      rw [hwidths] at hmem
      constructor
      · intro values hvalues
        by_cases hone : values.length = 1
        · exact Or.inl hone
        · exact Or.inr (List.mem_singleton.mp (hmem values hvalues hone))
      · refine Or.inr (mem_vectorWidths_iff.mp ?_).2
        rw [hwidths]
        exact List.mem_singleton_self width
  | _ :: _ :: _ =>
      rw [hwidths] at hshort
      simp at hshort

theorem AgreeOn.headD_vectorWidths {width : Nat} (h : AgreeOn resolved width) :
    ¬1 < (vectorWidths resolved).length ∧ (vectorWidths resolved).headD 1 = width := by
  have honly : ∀ found ∈ vectorWidths resolved, found = width := by
    intro found hfound
    obtain ⟨hrange, values, hvalues, rfl⟩ := mem_vectorWidths_iff.mp hfound
    rcases h.agree values hvalues with hone | hwidth
    · omega
    · exact hwidth
  match hwidths : vectorWidths resolved with
  | [] =>
      refine ⟨by decide, ?_⟩
      rcases h.attained with hone | ⟨values, hvalues, rfl⟩
      · exact hone.symm
      · by_contra hne
        have hmem := length_mem_vectorWidths hlength hvalues (Ne.symm hne)
        rw [hwidths] at hmem
        cases hmem
  | [found] => exact ⟨by simp, honly found (by simp [hwidths])⟩
  | first :: second :: rest =>
      -- Two members would both be the width, but no width is listed twice.
      have hnodup : (vectorWidths resolved).Nodup := List.Pairwise.filter _ (by decide)
      rw [hwidths] at hnodup honly
      have hfirst := honly first (by simp)
      have hsecond := honly second (by simp)
      simp [hfirst, hsecond] at hnodup

end Widths

namespace Expr

/-- The number of components of an expression.  Each of its wildcards has one component, which
stands for all, or this many; and it is one unless a wildcard has so many. -/
structure HasWidth (environment : Environment) (expr : Expr) (width : Nat) : Prop where
  agree : ∀ use ∈ expr.leaves, ∃ values, use.resolve environment = .ok values ∧
    (values.length = 1 ∨ values.length = width)
  attained : width = 1 ∨ ∃ use ∈ expr.leaves, ∃ values, use.resolve environment = .ok values ∧
    values.length = width

/-- The numbers are the values of the expression, component by component, and are all finite. -/
structure Yields (environment : Environment) (expr : Expr) (values : List Number) : Prop where
  width : expr.HasWidth environment values.length
  component : ∀ i value, values[i]? = some value →
    expr.Evaluates environment i value ∧ value.IsSound

variable {environment : Environment} {expr : Expr}

theorem hasWidth_iff {resolved : List (List Number)} {width : Nat}
    (h : expr.uses.mapM (fun use => use.resolve environment) = .ok resolved) :
    expr.HasWidth environment width ↔ AgreeOn resolved width := by
  have huse : ∀ use ∈ expr.leaves, ∃ values ∈ resolved, use.resolve environment = .ok values :=
    fun use huse => exists_of_mem_of_mapM_eq_ok h (mem_uses_iff.mpr huse)
  have hvalue : ∀ values ∈ resolved, ∃ use ∈ expr.leaves, use.resolve environment = .ok values := by
    intro values hvalues
    obtain ⟨use, hmem, hresolve⟩ := exists_of_mem_values_of_mapM_eq_ok h hvalues
    exact ⟨use, mem_uses_iff.mp hmem, hresolve⟩
  constructor
  · rintro ⟨hagree, hattained⟩
    constructor
    · intro values hvalues
      obtain ⟨use, hmem, hresolve⟩ := hvalue values hvalues
      obtain ⟨found, hfound, hlength⟩ := hagree use hmem
      cases hresolve.symm.trans hfound
      exact hlength
    · refine hattained.imp_right ?_
      rintro ⟨use, hmem, values, hresolve, hlength⟩
      obtain ⟨found, hfound, heq⟩ := huse use hmem
      cases hresolve.symm.trans heq
      exact ⟨values, hfound, hlength⟩
  · rintro ⟨hagree, hattained⟩
    constructor
    · intro use hmem
      obtain ⟨values, hvalues, hresolve⟩ := huse use hmem
      exact ⟨values, hresolve, hagree values hvalues⟩
    · refine hattained.imp_right ?_
      rintro ⟨values, hvalues, hlength⟩
      obtain ⟨use, hmem, hresolve⟩ := hvalue values hvalues
      exact ⟨use, hmem, values, hresolve, hlength⟩

theorem HasWidth.exists_resolved {width : Nat} (h : expr.HasWidth environment width) :
    ∃ resolved, expr.uses.mapM (fun use => use.resolve environment) = .ok resolved := by
  cases hresolved : expr.uses.mapM (fun use => use.resolve environment) with
  | ok resolved => exact ⟨resolved, rfl⟩
  | error failure =>
      obtain ⟨use, huse, hfailure⟩ := exists_of_mapM_eq_error hresolved
      obtain ⟨values, hvalues, _⟩ := h.agree use (mem_uses_iff.mp huse)
      cases hvalues.symm.trans hfailure

end Expr

/-- A step done for the first numbers succeeds when each of them has its value. -/
theorem mapM_range_eq_ok_iff {ε β : Type} {step : Nat → Except ε β} {count : Nat}
    {values : List β} :
    (List.range count).mapM step = .ok values ↔
      values.length = count ∧ ∀ i value, values[i]? = some value → step i = .ok value := by
  rw [mapM_eq_ok_iff, List.forall₂_iff_get]
  constructor
  · rintro ⟨hlength, h⟩
    refine ⟨by rw [← hlength, List.length_range], ?_⟩
    intro i value hvalue
    obtain ⟨hi, rfl⟩ := List.getElem?_eq_some_iff.mp hvalue
    have hstep := h i (hlength ▸ hi) hi
    rwa [List.get_eq_getElem, List.getElem_range] at hstep
  · rintro ⟨hlength, h⟩
    refine ⟨by rw [hlength, List.length_range], ?_⟩
    intro i _ hi
    rw [List.get_eq_getElem, List.getElem_range]
    exact h i _ (List.getElem?_eq_getElem hi)

/-- Evaluation yields the values of the components. -/
theorem evaluateExpr_eq_ok_iff {environment : Environment} {segment : Text} {expr : Expr}
    (hswizzle : ∀ use ∈ expr.leaves, ∀ letters ∈ use.swizzle, Token.IsSwizzle letters)
    {values : List Number} :
    evaluateExpr environment segment expr = .ok values ↔ expr.Yields environment values := by
  have hlength : ∀ resolved,
      expr.uses.mapM (fun use => use.resolve environment) = .ok resolved →
        ∀ vector ∈ resolved, 1 ≤ vector.length ∧ vector.length ≤ 4 := by
    intro resolved hresolved vector hvector
    obtain ⟨use, huse, hresolve⟩ := exists_of_mem_values_of_mapM_eq_ok hresolved hvector
    exact length_resolve (hswizzle use (Expr.mem_uses_iff.mp huse)) hresolve
  rw [evaluateExpr, bind_eq_ok_iff]
  constructor
  · rintro ⟨resolved, hresolved, h⟩
    dsimp only at h
    split at h
    next => cases h
    next hshort =>
      obtain ⟨hcount, hvalue⟩ := mapM_range_eq_ok_iff.mp h
      constructor
      · rw [Expr.hasWidth_iff hresolved, hcount]
        exact agreeOn_headD_vectorWidths (hlength resolved hresolved) hshort
      · intro i value hi
        exact evaluateComponent_eq_ok_iff.mp (hvalue i value hi)
  · rintro ⟨hwidth, hcomponent⟩
    obtain ⟨resolved, hresolved⟩ := hwidth.exists_resolved
    obtain ⟨hshort, hhead⟩ :=
      ((Expr.hasWidth_iff hresolved).mp hwidth).headD_vectorWidths (hlength resolved hresolved)
    refine ⟨resolved, hresolved, ?_⟩
    dsimp only
    rw [if_neg hshort, hhead]
    exact mapM_range_eq_ok_iff.mpr
      ⟨rfl, fun i value hi => evaluateComponent_eq_ok_iff.mpr (hcomponent i value hi)⟩

/-! ## Integers -/

namespace Expr

/-- The integer that the expression is at a component, without any rounding.  It is none where a
quotient or a number that is no integer takes part. -/
def integer? (environment : Environment) (component : Nat) : Expr → Option Int
  | .number literal =>
      if literal.isInteger ∧ literal.whole.length ≤ Text.maxDigits then
        some (Text.natValue literal.whole)
      else none
  | .wildcard use =>
      match use.resolve environment with
      | .error _ => none
      | .ok values =>
          match componentOf values component with
          | .int n => some n
          | .float _ => none
  | .neg a => (a.integer? environment component).map fun x => -x
  | .pos a => a.integer? environment component
  | .add a b => do
      let x ← a.integer? environment component
      let y ← b.integer? environment component
      some (x + y)
  | .sub a b => do
      let x ← a.integer? environment component
      let y ← b.integer? environment component
      some (x - y)
  | .mul a b => do
      let x ← a.integer? environment component
      let y ← b.integer? environment component
      some (x * y)
  | .div _ _ => none

theorem evaluates_of_integer? {environment : Environment} {component : Nat} {expr : Expr} {n : Int}
    (h : expr.integer? environment component = some n) :
    expr.Evaluates environment component (.int n) := by
  induction expr generalizing n with
  | number literal =>
      rw [integer?] at h
      split at h
      next hshort =>
        cases h
        refine .number ?_
        rw [Literal.value?, if_pos hshort.1, if_pos hshort.2]
      next => cases h
  | wildcard use =>
      rw [integer?] at h
      split at h
      next => cases h
      next values hvalues =>
        split at h
        next m hm =>
          cases h
          rw [← hm]
          exact .wildcard hvalues
        next => cases h
  | neg a ih =>
      obtain ⟨x, hx, rfl⟩ := Option.map_eq_some_iff.mp h
      exact .neg (ih hx)
  | pos a ih => exact .pos (ih h)
  | add a b iha ihb | sub a b iha ihb | mul a b iha ihb =>
      obtain ⟨x, hx, h⟩ := Option.bind_eq_some_iff.mp h
      obtain ⟨y, hy, h⟩ := Option.bind_eq_some_iff.mp h
      cases h
      constructor
      · exact iha hx
      · exact ihb hy
      · rfl
  | div a b => cases h

/-- Integers that doubles come near are the values of an expression that is computed in the
integers. -/
theorem yields_of_integer? {environment : Environment} {expr : Expr} {numbers : List Int}
    (hwidth : expr.HasWidth environment numbers.length)
    (h : ∀ i n, numbers[i]? = some n →
      expr.integer? environment i = some n ∧ n.natAbs < floatRange) :
    expr.Yields environment (numbers.map .int) := by
  constructor
  · rwa [List.length_map]
  · intro i value hvalue
    rw [List.getElem?_map] at hvalue
    obtain ⟨n, hn, rfl⟩ := Option.map_eq_some_iff.mp hvalue
    obtain ⟨hinteger, hrange⟩ := h i n hn
    exact ⟨evaluates_of_integer? hinteger, isOversized_of_natAbs_lt hrange, rfl⟩

end Expr

/-! ## Segments -/

/-- An integer with no more digits than are read, if it is one. -/
def Token.IsReadable : Token → Prop
  | .number literal => literal.isInteger = true → literal.whole.length ≤ Text.maxDigits
  | _ => True

theorem Token.IsReadable.abortsAs {token : Token} (h : token.IsReadable) :
    token.AbortsAs fun _ => False := by
  cases token with
  | number literal =>
      intro hinteger hlong
      exact absurd (h hinteger) (Nat.not_le_of_lt hlong)
  | _ => trivial

theorem Phrase.tokens_subset {phrase : Phrase} {use : WildcardUse}
    (h : use ∈ phrase.tree.leaves) : use.tokens ⊆ phrase.tokens := by
  induction phrase with
  | number literal => cases h
  | wildcard other =>
      obtain rfl := List.mem_singleton.mp h
      exact List.Subset.refl _
  | neg a ih | pos a ih => exact List.subset_cons_of_subset _ (ih h)
  | add a b iha ihb | sub a b iha ihb | mul a b iha ihb | div a b iha ihb =>
      rcases List.mem_append.mp h with h | h
      · exact List.subset_append_of_subset_left _ (iha h)
      · exact List.subset_append_of_subset_right _ (List.subset_cons_of_subset _ (ihb h))
  | paren a ih =>
      exact List.subset_cons_of_subset _ (List.subset_append_of_subset_left _ (ih h))

theorem Phrase.isSwizzle_of_spelled {phrase : Phrase} {segment : Text}
    (h : Spelled phrase.tokens segment) :
    ∀ use ∈ phrase.tree.leaves, ∀ letters ∈ use.swizzle, Token.IsSwizzle letters := by
  intro use huse letters hletters
  have hmem : Token.swizzle letters ∈ use.tokens := by
    simp [WildcardUse.tokens, Option.mem_def.mp hletters]
  exact h.isSpelled _ (Phrase.tokens_subset huse hmem)

theorem Phrase.readExpr_eq_ok {phrase : Phrase} {segment : Text} (hbracketed : phrase.IsBracketed)
    (h : Spelled phrase.tokens segment) : readExpr infoMarker segment = .ok phrase.tree :=
  readExpr_eq_ok_iff.mpr
    ⟨phrase.tokens, h, (Phrase.derives hbracketed).loosen (Nat.zero_le _)⟩

section Segment

variable {environment : Environment} {segment : Text}

theorem evaluateSegment_of_readExpr {expr : Expr} (h : readExpr infoMarker segment = .ok expr) :
    evaluateSegment environment infoMarker segment = evaluateExpr environment segment expr := by
  rw [evaluateSegment, if_neg (by decide), if_neg (by decide), h]

/-- A segment that the grammar does not derive is malformed. -/
theorem evaluateSegment_of_not_derives
    (h : ¬∃ tokens expr, Spelled tokens segment ∧ Derives .sum tokens expr) :
    ∃ problem, evaluateSegment environment infoMarker segment
      = refuse (.malformed segment problem) := by
  cases hread : readExpr infoMarker segment with
  | ok expr =>
      obtain ⟨tokens, htokens⟩ := readExpr_eq_ok_iff.mp hread
      exact absurd ⟨tokens, expr, htokens⟩ h
  | error problem =>
      refine ⟨problem, ?_⟩
      rw [evaluateSegment, if_neg (by decide), if_neg (by decide), hread]

end Segment

/-- The segments that are read are the spellings of what the grammar derives, and their trees are
those of the derivations; any other segment is a syntax error.  Every expression has a bracketed
phrase, and whichever of them is written, with whatever white space, its values are those of the
expression, component by component.  If its integers can be read, nothing worse than an issue comes
of it.  What is computed in the integers is exact, as far as doubles come near. -/
theorem segments_mean_their_trees (environment : Environment) (segment : Text) :
    (∀ expr, readExpr infoMarker segment = .ok expr ↔
      ∃ tokens, Spelled tokens segment ∧ Derives .sum tokens expr) ∧
    ((¬∃ tokens expr, Spelled tokens segment ∧ Derives .sum tokens expr) →
      ∃ problem, evaluateSegment environment infoMarker segment
          = refuse (.malformed segment problem) ∧
        (Issue.malformed segment problem).kind = .syntactic) ∧
    (∀ expr : Expr, expr.phrase.IsBracketed ∧ expr.phrase.tree = expr) ∧
    ∀ phrase : Phrase, phrase.IsBracketed → Spelled phrase.tokens segment →
      (∀ values, evaluateSegment environment infoMarker segment = .ok values ↔
        phrase.tree.Yields environment values) ∧
      (phrase.tree.MadeOf Token.IsReadable → ∀ cause,
        evaluateSegment environment infoMarker segment ≠ giveUp cause) ∧
      ∀ numbers : List Int, phrase.tree.HasWidth environment numbers.length →
        (∀ i n, numbers[i]? = some n →
          phrase.tree.integer? environment i = some n ∧ n.natAbs < floatRange) →
        evaluateSegment environment infoMarker segment = .ok (numbers.map .int) := by
  refine ⟨fun expr => readExpr_eq_ok_iff, ?_, ?_, ?_⟩
  · intro h
    obtain ⟨problem, hproblem⟩ := evaluateSegment_of_not_derives h
    exact ⟨problem, hproblem, rfl⟩
  · intro expr
    exact ⟨expr.isBracketed_phrase, expr.tree_phrase⟩
  · intro phrase hbracketed hspelled
    have hyields : ∀ values, evaluateExpr environment segment phrase.tree = .ok values ↔
        phrase.tree.Yields environment values :=
      fun values => evaluateExpr_eq_ok_iff (Phrase.isSwizzle_of_spelled hspelled)
    rw [evaluateSegment_of_readExpr (Phrase.readExpr_eq_ok hbracketed hspelled)]
    refine ⟨hyields, ?_, ?_⟩
    · intro hreadable cause habort
      exact evaluateExpr_abortsOnly (hreadable.imp fun _ => Token.IsReadable.abortsAs) cause habort
    · intro numbers hwidth hnumbers
      exact (hyields _).mpr (Expr.yields_of_integer? hwidth hnumbers)

/-- A wildcard of two integers. -/
def sizes : Environment :=
  [⟨"size".toList, [.int 3, .int 4], by decide, by decide⟩]

/-- A product with a pair of parentheses that it needs and one that it does not. -/
def scaledSize : Phrase :=
  .mul (.paren (.add (.paren (.number { whole := ['1'] })) (.number { whole := ['2'] })))
    (.neg (.wildcard { name := "size".toList, swizzle := some ['y', 'x'] }))

theorem spelled_scaledSize :
    Spelled scaledSize.tokens "((1) +2 )* - info.size.yx".toList := by
  have hone : Literal.IsSpelled { whole := ['1'] } :=
    ⟨by decide, by simp, Or.inl (by decide), by simp⟩
  have htwo : Literal.IsSpelled { whole := ['2'] } :=
    ⟨by decide, by simp, Or.inl (by decide), by simp⟩
  have hswizzle : Token.IsSwizzle ['y', 'x'] := ⟨by decide, by decide, by decide⟩
  have hname : Reader.IsIdentifier "size".toList := by decide
  refine @Spelled.cons [] _ .openParen _ (by decide) trivial ?_
  refine @Spelled.cons [] _ .openParen _ (by decide) trivial ?_
  refine @Spelled.cons [] _ (.number { whole := ['1'] }) _ (by decide) hone ?_
  refine @Spelled.cons [] _ .closeParen _ (by decide) trivial ?_
  refine @Spelled.cons [' '] _ .plus _ (by decide) trivial ?_
  refine @Spelled.cons [] _ (.number { whole := ['2'] }) _ (by decide) htwo ?_
  refine @Spelled.cons [' '] _ .closeParen _ (by decide) trivial ?_
  refine @Spelled.cons [] _ .times _ (by decide) trivial ?_
  refine @Spelled.cons [' '] _ .minus _ (by decide) trivial ?_
  refine @Spelled.cons [' '] _ (.wildcard "size".toList) _ (by decide) hname ?_
  refine @Spelled.cons [] _ (.swizzle ['y', 'x']) _ (by decide) hswizzle ?_
  exact @Spelled.nil [] (by decide)

theorem isBracketed_scaledSize : scaledSize.IsBracketed :=
  ⟨⟨trivial, trivial, by decide⟩, ⟨trivial, by decide⟩, by decide, by decide⟩

theorem hasWidth_scaledSize : scaledSize.tree.HasWidth sizes 2 := by
  have hleaves : scaledSize.tree.leaves =
      [{ name := "size".toList, swizzle := some ['y', 'x'] }] := rfl
  have hresolve : WildcardUse.resolve sizes { name := "size".toList, swizzle := some ['y', 'x'] }
      = .ok [.int 4, .int 3] := rfl
  constructor
  · rw [hleaves, List.forall_mem_singleton]
    exact ⟨_, hresolve, Or.inr rfl⟩
  · rw [hleaves]
    exact Or.inr ⟨_, List.mem_singleton_self _, _, hresolve, rfl⟩

/-- A product of integers is exact in both components, and a sum without its second operand is a
syntax error. -/
theorem segments_mean_their_trees_scaledSize :
    (scaledSize.IsBracketed ∧
      Spelled scaledSize.tokens "((1) +2 )* - info.size.yx".toList ∧
      scaledSize.tree.MadeOf Token.IsReadable ∧
      (∀ cause, evaluateSegment sizes infoMarker "((1) +2 )* - info.size.yx".toList
        ≠ giveUp cause) ∧
      evaluateSegment sizes infoMarker "((1) +2 )* - info.size.yx".toList
        = .ok [.int (-12), .int (-9)]) ∧
    (¬∃ tokens expr, Spelled tokens "1 +".toList ∧ Derives .sum tokens expr) ∧
      ∃ problem, evaluateSegment sizes infoMarker "1 +".toList
          = refuse (.malformed "1 +".toList problem) ∧
        (Issue.malformed "1 +".toList problem).kind = .syntactic := by
  obtain ⟨-, -, -, hphrase⟩ :=
    segments_mean_their_trees sizes "((1) +2 )* - info.size.yx".toList
  obtain ⟨-, habort, hintegers⟩ := hphrase scaledSize isBracketed_scaledSize spelled_scaledSize
  have hreadable : scaledSize.tree.MadeOf Token.IsReadable :=
    ⟨⟨fun _ => by decide, fun _ => by decide⟩, trivial, List.forall_mem_nil _⟩
  obtain ⟨hgrammar, hmalformed, -, -⟩ := segments_mean_their_trees sizes "1 +".toList
  have hderives : ¬∃ tokens expr, Spelled tokens "1 +".toList ∧ Derives .sum tokens expr := by
    rintro ⟨tokens, expr, h⟩
    have hread := (hgrammar expr).mpr ⟨tokens, h⟩
    have herror : (readExpr infoMarker "1 +".toList).toOption = none := by decide +kernel
    rw [hread] at herror
    cases herror
  refine ⟨⟨isBracketed_scaledSize, spelled_scaledSize, hreadable, habort hreadable, ?_⟩,
    hderives, hmalformed hderives⟩
  refine hintegers [-12, -9] hasWidth_scaledSize ?_
  intro i n hn
  match i with
  | 0 =>
      cases hn
      exact ⟨by decide +kernel, by decide +kernel⟩
  | 1 =>
      cases hn
      exact ⟨by decide +kernel, by decide +kernel⟩
  | _ + 2 => cases hn

end ShaderMarkup
