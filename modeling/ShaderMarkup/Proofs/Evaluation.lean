import ShaderMarkup.Proofs.Excerpt
import ShaderMarkup.Proofs.Expression
import ShaderMarkup.Proofs.Outcome
import ShaderMarkup.Resource.Context

/-!
# What an evaluation gives, and what it can stumble over

An evaluation that succeeds yields at least one number, and every number it yields is finite
(`evaluate_eq_ok`).  One that aborts does so for a numeral with more digits than are read, or for a
marker that cannot be sought (`evaluate_abortsOnly`).  Every numeral of an expression stands in the
expression as it is written, which is what `Tokenized` is used for here.
-/

namespace ShaderMarkup

/-! ## Numerals -/

/-- A run of decimal digits that stands in the text. -/
def IsNumeralIn (text digits : Text) : Prop :=
  digits <:+: text ∧ ∀ c ∈ digits, isDecimal c = true

theorem IsNumeralIn.trans {text whole digits : Text} (h : IsNumeralIn text digits)
    (hwhole : text <:+: whole) : IsNumeralIn whole digits :=
  ⟨h.1.trans hwhole, h.2⟩

/-- A token whose digits, if it is a number, stand in the text. -/
def Token.StandsIn (text : Text) : Token → Prop
  | .number literal => IsNumeralIn text literal.whole
  | _ => True

theorem Token.StandsIn.trans {text whole : Text} (hwhole : text <:+: whole) {token : Token}
    (h : token.StandsIn text) : token.StandsIn whole := by
  cases token with
  | number literal => exact IsNumeralIn.trans h hwhole
  | _ => trivial

theorem Token.ReadAs.standsIn {marker text rest : Text} {token : Token}
    (h : ReadAs marker text rest token) : token.StandsIn text := by
  cases h with
  | @number literal h =>
      obtain ⟨rfl, hspelled⟩ := Literal.read_eq_some h
      refine ⟨?_, hspelled.whole⟩
      unfold Literal.text
      rw [List.append_assoc, List.append_assoc]
      exact List.infix_append_left
  | wildcard | swizzle => trivial
  | @punctuation token h =>
      cases token with
      | number literal => exact absurd rfl ((readPunctuation_eq_some h).2.1 literal)
      | _ => trivial

theorem Tokenized.standsIn {marker text : Text} {tokens : List Token}
    (h : Tokenized marker text tokens) : ∀ token ∈ tokens, token.StandsIn text := by
  induction h with
  | nil => simp
  | @token written rest token tokens hne hread _ ih =>
      rw [List.forall_mem_cons]
      exact ⟨hread.standsIn, fun other hother =>
        (ih other hother).trans (List.suffix_append written rest).isInfix⟩
  | @gap gap rest tokens hne hgap _ ih =>
      exact fun other hother => (ih other hother).trans (List.suffix_append gap rest).isInfix

/-! ## Aborts -/

/-- What an evaluation can stumble over in an expression. -/
inductive EvaluationTrap (marker text : Text) : Abort → Prop
  | markerLines (h : '\n' ∈ marker) : EvaluationTrap marker text .markerLines
  | markerNull (h : '\x00' ∈ marker) : EvaluationTrap marker text .markerNull
  | integer {digits : Text} (h : IsNumeralIn text digits)
      (hlong : Text.maxDigits < digits.length) :
      EvaluationTrap marker text (.integerLength digits.length)
  | literal {digits : Text} (h : IsNumeralIn text digits)
      (hlong : Text.maxDigits < digits.length) : EvaluationTrap marker text .literalLength

/-- An integer with more digits than are read leads to aborts with the property only. -/
def Token.AbortsAs (p : Abort → Prop) : Token → Prop
  | .number literal =>
      literal.isInteger = true → Text.maxDigits < literal.whole.length →
        p (.integerLength literal.whole.length) ∧ p .literalLength
  | _ => True

theorem Token.StandsIn.abortsAs {marker text : Text} {token : Token} (h : token.StandsIn text) :
    token.AbortsAs (EvaluationTrap marker text) := by
  cases token with
  | number literal =>
      intro _ hlong
      exact ⟨.integer h hlong, .literal h hlong⟩
  | _ => trivial

section Abort

variable {environment : Environment} {marker text segment : Text} {p : Abort → Prop}

theorem resolve_abortsOnly {use : WildcardUse} (h : use.MadeOf (Token.AbortsAs p)) :
    AbortsOnly p (use.resolve environment) := by
  unfold WildcardUse.resolve
  split
  next => exact .refuse _
  next values =>
    refine .bind (.mapM fun literal hliteral => ?_) fun indices _ => .bind ?_ fun picked _ => ?_
    · unfold indexValue
      split
      next => exact .refuse _
      next hinteger =>
        split
        next hlong => exact .giveUp (h.2 literal hliteral (by simpa using hinteger) hlong).1
        next => exact .ok _
    · unfold pickIndexed
      split
      · exact .ok _
      · split
        · exact .ok _
        · exact .refuse _
      · split
        · exact .refuse _
        · split
          · split
            · exact .ok _
            · exact .refuse _
          · exact .refuse _
      · exact .refuse _
    · split
      · exact .ok _
      · refine .mapM fun letter _ => ?_
        split
        · exact .ok _
        · exact .refuse _

theorem arithmetic_abortsOnly (result : Except ArithmeticFault Number) :
    AbortsOnly p (arithmetic segment result) := by
  unfold arithmetic
  split
  · exact .ok _
  · exact .refuse _
  · exact .refuse _

theorem Literal.long_of_value?_eq_none {literal : Literal} (h : literal.value? = none) :
    literal.isInteger = true ∧ Text.maxDigits < literal.whole.length := by
  unfold Literal.value? at h
  split at h
  next hinteger =>
    split at h
    next => cases h
    next hlong => exact ⟨hinteger, Nat.lt_of_not_le hlong⟩
  next => cases h

theorem eval_abortsOnly {valueOf : WildcardUse → Check Number} {expr : Expr}
    (h : expr.MadeOf (Token.AbortsAs p))
    (hvalue : ∀ use : WildcardUse, use.MadeOf (Token.AbortsAs p) → AbortsOnly p (valueOf use)) :
    AbortsOnly p (expr.eval segment valueOf) := by
  induction expr with
  | number literal =>
      rw [Expr.eval]
      split
      next => exact .ok _
      next hnone =>
        obtain ⟨hinteger, hlong⟩ := Literal.long_of_value?_eq_none hnone
        exact .giveUp (h hinteger hlong).2
  | wildcard use => exact hvalue use h
  | neg a ih => exact .bind (ih h) fun _ _ => .ok _
  | pos a ih => exact ih h
  | add a b iha ihb | sub a b iha ihb | mul a b iha ihb | div a b iha ihb =>
      exact .bind (iha h.1) fun _ _ => .bind (ihb h.2) fun _ _ => arithmetic_abortsOnly _

/-- An expression aborts only for its integers. -/
theorem evaluateExpr_abortsOnly {expr : Expr} (h : expr.MadeOf (Token.AbortsAs p)) :
    AbortsOnly p (evaluateExpr environment segment expr) := by
  refine .bind (.mapM fun use huse => resolve_abortsOnly (h.uses huse)) fun resolved _ => ?_
  dsimp only
  split
  · exact .refuse _
  · refine .mapM fun component _ => .bind (eval_abortsOnly h fun use huse =>
      .bind (resolve_abortsOnly huse) fun _ _ => .ok _) fun value _ => ?_
    unfold checkFinite
    split
    · exact .refuse _
    · split
      · exact .ok _
      · exact .refuse _

theorem evaluateSegment_abortsOnly :
    AbortsOnly (EvaluationTrap marker segment) (evaluateSegment environment marker segment) := by
  unfold evaluateSegment
  split
  next hlines => exact .giveUp (.markerLines (by simpa using hlines))
  next =>
    split
    next hnull => exact .giveUp (.markerNull (by simpa using hnull))
    next =>
      split
      next expr hexpr =>
        obtain ⟨tokens, htokens, hmade⟩ := exists_tokens_of_readExpr hexpr
        exact evaluateExpr_abortsOnly (hmade.imp fun token htoken =>
          (htokens.standsIn token htoken).abortsAs)
      next => exact .refuse _

theorem EvaluationTrap.trans {whole : Text} (hwhole : text <:+: whole) {cause : Abort}
    (h : EvaluationTrap marker text cause) : EvaluationTrap marker whole cause := by
  cases h with
  | markerLines h => exact .markerLines h
  | markerNull h => exact .markerNull h
  | integer h hlong => exact .integer (h.trans hwhole) hlong
  | literal h hlong => exact .literal (h.trans hwhole) hlong

/-- An evaluation aborts only for the marker or for a numeral of the expression. -/
theorem evaluate_abortsOnly {expression : Text} :
    AbortsOnly (EvaluationTrap marker expression) (evaluate environment marker expression) := by
  unfold evaluate
  dsimp only
  split
  · exact .refuse _
  · refine .bind (.mapM fun part hpart => ?_) fun results _ => ?_
    · exact evaluateSegment_abortsOnly.imp fun cause => .trans (splitTopLevel_isInfix hpart)
    · split
      · exact .refuse _
      · exact .ok _

end Abort

/-! ## Values -/

/-- A number that a double comes near and that is finite. -/
def Number.IsSound (value : Number) : Prop :=
  value.isOversized = false ∧ value.isFinite = true

theorem checkFinite_eq_ok_iff {segment : Text} {value result : Number} :
    checkFinite segment value = .ok result ↔ value = result ∧ value.IsSound := by
  unfold checkFinite Number.IsSound
  cases value.isOversized <;> cases value.isFinite <;> simp [refuse]

theorem one_le_headD_vectorWidths (resolved : List (List Number)) :
    1 ≤ (vectorWidths resolved).headD 1 := by
  cases hwidths : vectorWidths resolved with
  | nil => exact Nat.le_refl 1
  | cons width rest =>
      have hmem : width ∈ vectorWidths resolved := by simp [hwidths]
      unfold vectorWidths at hmem
      have hthree := (List.mem_filter.mp hmem).1
      simp only [List.mem_cons, List.not_mem_nil, or_false] at hthree
      simp only [List.headD_cons]
      omega

/-- A segment has a value when it is an expression that has one. -/
theorem evaluateSegment_eq_ok_iff {environment : Environment} {marker segment : Text}
    {values : List Number} :
    evaluateSegment environment marker segment = .ok values ↔
      ('\n' ∉ marker ∧ '\x00' ∉ marker) ∧ ∃ expr, readExpr marker segment = .ok expr ∧
        evaluateExpr environment segment expr = .ok values := by
  unfold evaluateSegment
  by_cases hlines : '\n' ∈ marker
  · simp [hlines, giveUp]
  · by_cases hnull : '\x00' ∈ marker
    · simp [hlines, hnull, giveUp]
    · cases hread : readExpr marker segment with
      | ok expr => simp [hlines, hnull]
      | error problem => simp [hlines, hnull, refuse]

theorem evaluateExpr_eq_ok {environment : Environment} {segment : Text} {expr : Expr}
    {values : List Number} (h : evaluateExpr environment segment expr = .ok values) :
    values ≠ [] ∧ ∀ value ∈ values, value.IsSound := by
  obtain ⟨resolved, _, h⟩ := bind_eq_ok_iff.mp h
  dsimp only at h
  split at h
  next => cases h
  next =>
    constructor
    · have hlength := (mapM_eq_ok_iff.mp h).length_eq
      rw [List.length_range] at hlength
      have hone := one_le_headD_vectorWidths resolved
      rintro rfl
      simp only [List.length_nil] at hlength
      omega
    · intro value hvalue
      obtain ⟨component, _, hcomponent⟩ := exists_of_mem_values_of_mapM_eq_ok h hvalue
      obtain ⟨found, _, hfinite⟩ := bind_eq_ok_iff.mp hcomponent
      obtain ⟨rfl, hsound⟩ := checkFinite_eq_ok_iff.mp hfinite
      exact hsound

/-- An expression has values when all its segments do and they are not too many. -/
theorem evaluate_eq_ok_iff {environment : Environment} {marker expression : Text}
    {values : List Number} :
    evaluate environment marker expression = .ok values ↔
      (splitTopLevel [','] false expression ≠ [] ∧ [] ∉ splitTopLevel [','] false expression) ∧
      ∃ results, (splitTopLevel [','] false expression).mapM (evaluateSegment environment marker)
          = .ok results ∧ values = results.flatten ∧ values.length ≤ maxComponents := by
  unfold evaluate
  dsimp only
  generalize splitTopLevel [','] false expression = parts
  by_cases hparts : parts ≠ [] ∧ [] ∉ parts
  · rw [if_neg (by simpa using hparts), bind_eq_ok_iff, and_iff_right hparts]
    refine exists_congr fun results => and_congr_right fun _ => ?_
    split
    next hlong =>
      constructor
      · intro h
        cases h
      · rintro ⟨rfl, hle⟩
        exact absurd hle (Nat.not_le_of_lt hlong)
    next hshort =>
      constructor
      · intro h
        cases h
        exact ⟨rfl, Nat.le_of_not_lt hshort⟩
      · rintro ⟨rfl, _⟩
        rfl
  · rw [if_pos (by simpa [imp_iff_not_or] using hparts)]
    constructor
    · intro h
      cases h
    · exact fun h => absurd h.1 hparts

/-- An evaluation that succeeds yields at least one number, and only sound ones. -/
theorem evaluate_eq_ok {environment : Environment} {marker expression : Text}
    {values : List Number} (h : evaluate environment marker expression = .ok values) :
    values ≠ [] ∧ ∀ value ∈ values, value.IsSound := by
  obtain ⟨⟨hne, _⟩, results, hresults, rfl, _⟩ := evaluate_eq_ok_iff.mp h
  have hresult : ∀ result ∈ results, result ≠ [] ∧ ∀ value ∈ result, value.IsSound := by
    intro result hresult
    obtain ⟨part, _, hpart⟩ := exists_of_mem_values_of_mapM_eq_ok hresults hresult
    obtain ⟨_, expr, _, hexpr⟩ := evaluateSegment_eq_ok_iff.mp hpart
    exact evaluateExpr_eq_ok hexpr
  constructor
  · obtain ⟨part, hpart⟩ := List.exists_mem_of_ne_nil _ hne
    obtain ⟨result, hmem, _⟩ := exists_of_mem_of_mapM_eq_ok hresults hpart
    intro hnil
    exact (hresult result hmem).1 (List.flatten_eq_nil_iff.mp hnil result hmem)
  · intro value hvalue
    obtain ⟨result, hmem, hvalue⟩ := List.mem_flatten.mp hvalue
    exact (hresult result hmem).2 value hvalue

end ShaderMarkup
