import Mathlib.Tactic.NormNum
import ShaderMarkup.Proofs.Boundary
import ShaderMarkup.Proofs.Evaluation

/-!
# Numerals and their values

A natural number that is written in decimal digits is read back as that number
(`Text.natValue_ofNat`).  As an expression it evaluates to itself, up to `2 ^ 53`, whatever the
wildcards and their marker are (`evaluate_ofNat`), and so do two of them with a comma in between
(`evaluate_pair`).  Below `floatRange` no integer is too large for a double
(`isOversized_of_natAbs_lt`).
-/

namespace ShaderMarkup

/-! ## Digits -/

section Digit

variable {c : Char} (h : c.isDigit = true)

include h

theorem toNat_of_isDigit : 48 ≤ c.toNat ∧ c.toNat ≤ 57 := by
  simp only [Char.isDigit, Bool.and_eq_true, decide_eq_true_eq, ge_iff_le,
    UInt32.le_iff_toNat_le] at h
  exact h

theorem toNat_lt_of_isDigit : c.toNat < 128 := by
  have := (toNat_of_isDigit h).2
  omega

theorem decimalValue?_of_isDigit : decimalValue? c = some (c.toNat - '0'.toNat) := by
  rw [decimalValue?, if_pos (toNat_lt_of_isDigit h), if_pos h]

theorem isDecimal_of_isDigit : isDecimal c = true := by
  rw [isDecimal, decimalValue?_of_isDigit h, Option.isSome_some]

theorem isWord_of_isDigit : isWord c = true := by
  simp [isWord, isAlphanumeric, toNat_lt_of_isDigit h, Char.isAlphanum, h]

theorem isNameStart_of_isDigit : isNameStart c = false := by
  obtain ⟨-, hle⟩ := toNat_of_isDigit h
  rw [isNameStart, Bool.or_eq_false_iff, beq_eq_false_iff_ne, ← Bool.not_eq_true]
  refine ⟨fun heq => ?_, fun halpha => ?_⟩
  · rw [heq] at hle
    exact absurd hle (by decide)
  · have := toNat_of_isAlpha halpha
    omega

end Digit

namespace Text

theorem isDigit_of_mem_ofNat {n : Nat} {c : Char} (h : c ∈ ofNat n) : c.isDigit = true :=
  Nat.isDigit_of_mem_toDigits (by decide) (by decide) h

theorem ofNat_ne_nil (n : Nat) : ofNat n ≠ [] :=
  Nat.toDigits_ne_nil

theorem natValue_eq_ofDigitChars {digits : Text} (h : ∀ c ∈ digits, c.isDigit = true)
    (value : Nat) :
    digits.foldl (fun value c => 10 * value + (decimalValue? c).getD 0) value
      = Nat.ofDigitChars 10 digits value := by
  induction digits generalizing value with
  | nil => rfl
  | cons c rest ih =>
      rw [List.forall_mem_cons] at h
      rw [List.foldl_cons, decimalValue?_of_isDigit h.1, Option.getD_some, ih h.2,
        Nat.ofDigitChars_cons]

/-- A number is read back as it was written. -/
theorem natValue_ofNat (n : Nat) : natValue (ofNat n) = n := by
  rw [natValue, natValue_eq_ofDigitChars fun c hc => isDigit_of_mem_ofNat hc, ofNat,
    Nat.ofDigitChars_ten_toDigits]

theorem length_ofNat_le {n : Nat} (h : n ≤ 2 ^ 53) : (ofNat n).length ≤ maxDigits := by
  have hlt : n < 10 ^ 16 := lt_of_le_of_lt h (by norm_num)
  exact ((Nat.length_toDigits_le_iff (by decide) (by decide)).mpr hlt).trans (by decide)

end Text

/-! ## Sizes -/

theorem roundQuotient_le (num den : Nat) : roundQuotient num den ≤ num / den + 1 := by
  unfold roundQuotient
  dsimp only
  split
  · omega
  · split <;> omega

theorem quotientLog2_one {n : Nat} (hn : n ≠ 0) : quotientLog2 n 1 = n.log2 := by
  have hbelow : belowPower n 1 n.log2 = false := by
    have hle : twoPow n.log2 ≤ n := Nat.log2_self_le hn
    simp only [belowPower, Int.natCast_nonneg, if_true, Int.toNat_natCast, Nat.one_mul,
      decide_eq_false_iff_not, not_lt]
    exact hle
  have hestimate : (n.log2 : Int) - (Nat.log2 1 : Nat) = n.log2 := by
    have hone : Nat.log2 1 = 0 := by decide
    omega
  unfold quotientLog2
  simp only [hestimate, hbelow, Bool.false_eq_true, if_false]

theorem Binary.signed_natAbs (n : Int) : Binary.signed (n < 0) n.natAbs = n := by
  unfold Binary.signed
  split
  next h =>
    have := of_decide_eq_true h
    omega
  next h =>
    have := of_decide_eq_false (Bool.eq_false_iff.mpr h)
    omega

theorem Number.toInt?_int (n : Int) : (Number.int n).toInt? = some n := by
  have hvalue : (Number.int n).toInt? = some (Binary.signed (n < 0) n.natAbs * 1) := rfl
  rw [hvalue, Binary.signed_natAbs, Int.mul_one]

theorem Number.atMost_int {m n : Int} : (Number.int m).atMost (.int n) = true ↔ m ≤ n := by
  have horder : (Number.int m).order? (.int n)
      = some (compare (Binary.signed (m < 0) m.natAbs * 1) (Binary.signed (n < 0) n.natAbs * 1)) :=
    rfl
  rw [Number.atMost, horder, Binary.signed_natAbs, Binary.signed_natAbs, Int.mul_one, Int.mul_one,
    Bool.or_eq_true, beq_iff_eq, beq_iff_eq, Option.some_inj, Option.some_inj, compare_lt_iff_lt,
    compare_eq_iff_eq]
  omega

/-- What lies more than a half below a number is rounded to less than it. -/
theorem roundQuotient_lt {num den m : Nat} (h : 2 * num < (2 * m - 1) * den) :
    roundQuotient num den < m := by
  have hden : 0 < den := Nat.pos_of_ne_zero (by rintro rfl; simp at h)
  have hsplit := Nat.div_add_mod num den
  have hless : num / den < m := by
    rw [Nat.div_lt_iff_lt_mul hden]
    have hle : (2 * m - 1) * den ≤ 2 * m * den := Nat.mul_le_mul_right _ (by omega)
    rw [Nat.mul_assoc] at hle
    omega
  by_cases hlast : num / den + 1 = m
  · have hfactor : (2 * m - 1) * den = 2 * (den * (num / den)) + den := by
      rw [← hlast, show 2 * (num / den + 1) - 1 = 2 * (num / den) + 1 by omega, Nat.add_mul,
        Nat.one_mul, Nat.mul_assoc, Nat.mul_comm (num / den)]
    have hremainder : 2 * (num % den) < den := by omega
    unfold roundQuotient
    dsimp only
    rwa [if_pos hremainder]
  · have hle := roundQuotient_le num den
    omega

/-- From here on an integer is too large for a double: `2 ^ 1024` is at least as near as the largest
double. -/
def floatRange : Nat :=
  (twoPow 54 - 1) * twoPow 970

theorem log2_lt_of_lt_twoPow {n k : Nat} (hn : n ≠ 0) (h : n < twoPow k) : n.log2 < k :=
  (Nat.log2_lt hn).mpr h

theorem twoPow_pos (n : Nat) : 0 < twoPow n :=
  Nat.two_pow_pos n

theorem twoPow_add (a b : Nat) : twoPow (a + b) = twoPow a * twoPow b :=
  Nat.pow_add 2 a b

theorem nearestBits_one {n : Nat} (hn : n ≠ 0) :
    nearestBits n 1 = (n.log2 + 1022) * twoPow 52 +
      if 52 ≤ n.log2 then roundQuotient n (twoPow (n.log2 - 52))
      else roundQuotient (n * twoPow (52 - n.log2)) 1 := by
  have hunit : max (quotientLog2 n 1 - 52) (-1074) = (n.log2 : Int) - 52 := by
    rw [quotientLog2_one hn]
    omega
  have hplaces : ((n.log2 : Int) - 52 + 1074).toNat = n.log2 + 1022 := by omega
  rw [nearestBits, if_neg hn]
  dsimp only
  rw [hunit, hplaces]
  by_cases hle : 52 ≤ n.log2
  · have hexponent : ((n.log2 : Int) - 52).toNat = n.log2 - 52 := by omega
    rw [if_pos (by omega), if_pos hle, hexponent, Nat.one_mul]
  · have hexponent : (-((n.log2 : Int) - 52)).toNat = 52 - n.log2 := by omega
    rw [if_neg (by omega), if_neg hle, hexponent]

/-- The fifty-three leading bits of an integer are rounded to `2 ^ 53` at most. -/
theorem roundQuotient_leading_le (n : Nat) :
    (if 52 ≤ n.log2 then roundQuotient n (twoPow (n.log2 - 52))
      else roundQuotient (n * twoPow (52 - n.log2)) 1) ≤ twoPow 53 := by
  have hpower : n < twoPow (n.log2 + 1) := Nat.lt_log2_self
  split
  next hle =>
    have hquotient : n / twoPow (n.log2 - 52) < twoPow 53 := by
      refine (Nat.div_lt_iff_lt_mul (twoPow_pos _)).mpr (hpower.trans_le ?_)
      rw [← twoPow_add, show n.log2 + 1 = 53 + (n.log2 - 52) by omega]
    exact (roundQuotient_le _ _).trans hquotient
  next hlt =>
    have hproduct : n * twoPow (52 - n.log2) < twoPow 53 := by
      calc n * twoPow (52 - n.log2) < twoPow (n.log2 + 1) * twoPow (52 - n.log2) :=
            Nat.mul_lt_mul_of_pos_right hpower (twoPow_pos _)
        _ = twoPow 53 := by rw [← twoPow_add, show n.log2 + 1 + (52 - n.log2) = 53 by omega]
    refine (roundQuotient_le _ _).trans ?_
    rw [Nat.div_one]
    exact hproduct

/-- Below `floatRange` the leading bits under the largest power of two are not rounded up to the
next one. -/
theorem roundQuotient_lt_of_lt_floatRange {n : Nat} (h : n < floatRange) :
    roundQuotient n (twoPow (1 + 970)) < twoPow 53 := by
  refine roundQuotient_lt ?_
  rw [twoPow_add]
  rw [floatRange] at h
  have hone : twoPow 1 = 2 := rfl
  have hmantissa : 2 * twoPow 53 - 1 = twoPow 54 - 1 := rfl
  rw [hone, hmantissa, Nat.mul_left_comm]
  omega

theorem nearestBits_lt {n : Nat} (h : n < floatRange) : nearestBits n 1 < infinityBits := by
  by_cases hn : n = 0
  · subst hn
    decide
  have hlog : n.log2 < 54 + 970 := by
    refine log2_lt_of_lt_twoPow hn (h.trans_le ?_)
    rw [twoPow_add]
    exact Nat.mul_le_mul_right _ (Nat.sub_le _ _)
  have hleading := roundQuotient_leading_le n
  have htwoPow : twoPow 53 = 2 * twoPow 52 := rfl
  rw [nearestBits_one hn, infinityBits]
  by_cases htop : n.log2 = 1023
  · have hless := roundQuotient_lt_of_lt_floatRange h
    rw [htop, if_pos (by decide), show 1023 - 52 = 1 + 970 from rfl]
    omega
  · have hplaces : (n.log2 + 1022) * twoPow 52 ≤ 2044 * twoPow 52 :=
      Nat.mul_le_mul_right _ (by omega)
    have hpos : 0 < twoPow 52 := twoPow_pos 52
    omega

/-- A double comes near every integer below `floatRange`. -/
theorem isOversized_of_natAbs_lt {n : Int} (h : n.natAbs < floatRange) :
    (Number.int n).isOversized = false := by
  have hbits := nearestBits_lt h
  rw [Number.isOversized, Number.toFloat?, floatOfQuotient?]
  simp only [if_neg (Nat.not_le_of_lt hbits), Option.isNone_some]

theorem isOversized_int {n : Nat} (h : n ≤ 2 ^ 53) : (Number.int n).isOversized = false := by
  refine isOversized_of_natAbs_lt ?_
  have hrange : twoPow 54 - 1 ≤ floatRange := Nat.le_mul_of_pos_right _ (twoPow_pos 970)
  have htwoPow : twoPow 54 = 2 ^ 54 := rfl
  rw [Int.natAbs_natCast]
  omega

/-! ## Expressions -/

/-- The literal of a numeral. -/
def Literal.ofDigits (digits : Text) : Literal :=
  { whole := digits }

section Digits

variable {digits : Text} (hdigits : ∀ c ∈ digits, c.isDigit = true) (hne : digits ≠ [])

include hdigits hne

theorem read_digits : Literal.read digits = some (Literal.ofDigits digits, []) := by
  have hrun : Reader.run1 isDecimal digits = some (digits, []) :=
    Reader.run1_eq_some_iff.mpr
      ⟨⟨by simp, fun c hc => isDecimal_of_isDigit (hdigits c hc), by simp⟩, hne⟩
  have hmantissa : Literal.readMantissa digits = some ((digits, none), []) := by
    rw [Literal.readMantissa, Reader.orElse_eq_some_iff]
    left
    rw [Reader.bind_of_some hrun]
    rfl
  rw [Literal.read, Reader.bind_of_some hmantissa]
  rfl

omit hne in
/-- No wildcard is used where there are nothing but digits. -/
theorem readUse_digits (marker : Text) : Token.readUse marker digits = none := by
  cases hread : Token.readUse marker digits with
  | none => rfl
  | some result =>
      obtain ⟨name, rest⟩ := result
      obtain ⟨identifier, htext, ⟨c, others, rfl, hstart, -⟩, -, -⟩ :=
        Token.readUse_eq_some hread
      have hc : c ∈ digits := by simp [htext]
      rw [isNameStart_of_isDigit (hdigits c hc)] at hstart
      exact absurd hstart (by decide)

theorem readAt_digits (marker : Text) :
    Token.readAt marker .operand digits
      = some (.number (Literal.ofDigits digits), []) := by
  let number : Reader Token := do let literal ← Literal.read; pure (.number literal)
  let wildcard : Reader Token := do let name ← Token.readUse marker; pure (.wildcard name)
  have hnumber : number digits = some (.number (Literal.ofDigits digits), []) :=
    (Reader.bind_of_some (read_digits hdigits hne)).trans rfl
  have hwildcard : wildcard digits = none := Reader.bind_of_none (readUse_digits hdigits marker)
  -- Whichever comes first, numbers or wildcards, the number is found.
  have hreaders : ∃ before after, Token.readers marker = before ++ number :: after ∧
      ∀ reader ∈ before, reader digits = none := by
    unfold Token.readers
    dsimp only
    split
    · exact ⟨[], _, rfl, fun _ h => absurd h List.not_mem_nil⟩
    · refine ⟨[wildcard], _, rfl, fun reader hreader => ?_⟩
      rw [List.mem_singleton.mp hreader]
      exact hwildcard
  obtain ⟨before, after, heq, hbefore⟩ := hreaders
  rw [Token.readAt, List.findSome?_eq_some_iff]
  refine ⟨before, number, after, heq, ?_, fun reader hreader => ?_⟩
  · rw [hnumber]
    rfl
  · rw [hbefore reader hreader]

theorem readExpr_digits (marker : Text) :
    readExpr marker digits = .ok (.number (Literal.ofDigits digits)) := by
  have hread : Token.readAt marker .operand (digits ++ [])
      = some (.number (Literal.ofDigits digits), []) := by
    rw [List.append_nil]
    exact readAt_digits hdigits hne marker
  obtain ⟨column, hcolumn⟩ := @readFrom_of_token marker digits [] (.operand [])
    (.operator (.number (Literal.ofDigits digits)) []) _ 1 hne hread rfl
  rw [List.append_nil] at hcolumn
  rw [readExpr, hcolumn]
  rfl

end Digits

/-! ## Segments -/

theorem topLevelPieces_append {opens closes separates : Char → Bool} {text : Text}
    (h : ∀ c ∈ text, opens c = false ∧ closes c = false ∧ separates c = false) {depth : Int}
    {rest first : Text} {others : List Text}
    (hrest : topLevelPieces opens closes separates depth rest = first :: others) :
    topLevelPieces opens closes separates depth (text ++ rest) = (text ++ first) :: others := by
  induction text with
  | nil => exact hrest
  | cons c text ih =>
      rw [List.forall_mem_cons] at h
      obtain ⟨⟨hopens, hcloses, hseparates⟩, htext⟩ := h
      rw [List.cons_append, topLevelPieces]
      simp only [depthAfter, hopens, hcloses, hseparates, Bool.false_eq_true, if_false,
        Bool.false_and]
      rw [ih htext]
      rfl

theorem not_separator_of_isDigit {c : Char} (h : c.isDigit = true) :
    isOpening c = false ∧ isClosing c = false ∧ c ∉ [','] := by
  have hword : ∀ d : Char, isWord d = false → c ≠ d := by
    rintro d hd rfl
    rw [isWord_of_isDigit h] at hd
    exact absurd hd (by decide)
  simp [isOpening, isClosing, hword _ (show isWord '(' = false by decide),
    hword _ (show isWord '[' = false by decide), hword _ (show isWord '\x7b' = false by decide),
    hword _ (show isWord ')' = false by decide), hword _ (show isWord ']' = false by decide),
    hword _ (show isWord '\x7d' = false by decide), hword _ (show isWord ',' = false by decide)]

theorem trim_of_solid {text : Text} (h : ∀ c ∈ text, isBlank c = false) :
    Text.trim text = text := by
  rcases List.eq_nil_or_concat text with rfl | ⟨front, c, rfl⟩
  · rfl
  · rw [List.concat_eq_append] at h ⊢
    rw [List.forall_mem_append, List.forall_mem_singleton] at h
    have hfront : Text.trimLeft front = front := by
      cases front with
      | nil => rfl
      | cons d rest => exact List.dropWhile_cons_of_neg (by simp [h.1 d List.mem_cons_self])
    rw [trim_append_cons front h.2 [], hfront, Text.trimRight]

section Split

variable {a b : Text} (ha : ∀ c ∈ a, c.isDigit = true) (hb : ∀ c ∈ b, c.isDigit = true)

theorem solid_of_isDigit (ha : ∀ c ∈ a, c.isDigit = true) : ∀ c ∈ a, isBlank c = false :=
  fun c hc => isBlank_eq_false_of_isWord (isWord_of_isDigit (ha c hc))

include ha in
theorem topLevelPieces_digits {rest first : Text} {others : List Text}
    (hrest : topLevelPieces (fun c => isOpening c || (false && c == '<'))
      (fun c => isClosing c || (false && c == '>')) (fun c => c ∈ [',']) 0 rest
        = first :: others) :
    topLevelPieces (fun c => isOpening c || (false && c == '<'))
      (fun c => isClosing c || (false && c == '>')) (fun c => c ∈ [',']) 0 (a ++ rest)
        = (a ++ first) :: others := by
  refine topLevelPieces_append (fun c hc => ?_) hrest
  obtain ⟨hopening, hclosing, hseparator⟩ := not_separator_of_isDigit (ha c hc)
  simp only [hopening, hclosing, hseparator, Bool.false_and, Bool.or_false, decide_false,
    and_self]

include ha in
theorem splitTopLevel_digits (hne : a ≠ []) : splitTopLevel [','] false a = [a] := by
  have hpieces := @topLevelPieces_digits a ha [] [] [] rfl
  rw [List.append_nil] at hpieces
  rw [splitTopLevel, hpieces, List.map_cons, List.map_nil, trim_of_solid (solid_of_isDigit ha),
    dropEmptyLast,
    if_neg (by simpa using hne)]

include ha hb in
theorem splitTopLevel_pair (hne : b ≠ []) :
    splitTopLevel [','] false (a ++ (", ".toList ++ b)) = [a, b] := by
  have hsecond := @topLevelPieces_digits b hb [] [] [] rfl
  rw [List.append_nil] at hsecond
  have hcomma : topLevelPieces (fun c => isOpening c || (false && c == '<'))
      (fun c => isClosing c || (false && c == '>')) (fun c => c ∈ [',']) 0 (", ".toList ++ b)
        = [] :: [' ' :: b] := by
    have hspace : topLevelPieces (fun c => isOpening c || (false && c == '<'))
        (fun c => isClosing c || (false && c == '>')) (fun c => c ∈ [',']) 0 ([' '] ++ b)
          = [' ' :: b] := topLevelPieces_append (by decide) hsecond
    exact congrArg (List.cons []) hspace
  have hpieces := topLevelPieces_digits ha hcomma
  have htrim : Text.trim (' ' :: b) = b := by
    have hblank : Text.trim ([' '] ++ b) = Text.trim b := trim_blank_append (by decide) b
    rw [← List.singleton_append, hblank, trim_of_solid (solid_of_isDigit hb)]
  rw [splitTopLevel, hpieces, List.map_cons, List.map_cons, List.map_nil, List.append_nil,
    trim_of_solid (solid_of_isDigit ha), htrim, dropEmptyLast, dropEmptyLast,
    if_neg (by simpa using hne)]
  exact List.cons_ne_nil b []

end Split

section Evaluate

variable (environment : Environment) {marker : Text}
  (hmarker : '\n' ∉ marker ∧ '\x00' ∉ marker)

include hmarker

theorem evaluateSegment_ofNat {n : Nat} (h : n ≤ 2 ^ 53) :
    evaluateSegment environment marker (Text.ofNat n) = .ok [.int n] := by
  refine evaluateSegment_eq_ok_iff.mpr ⟨hmarker, .number (Literal.ofDigits (Text.ofNat n)),
    readExpr_digits (fun c hc => Text.isDigit_of_mem_ofNat hc) (Text.ofNat_ne_nil n) marker, ?_⟩
  have hvalue : (Literal.ofDigits (Text.ofNat n)).value? = some (.int n) := by
    have hinteger : (Literal.ofDigits (Text.ofNat n)).isInteger = true := rfl
    have hlength : (Literal.ofDigits (Text.ofNat n)).whole.length ≤ Text.maxDigits :=
      Text.length_ofNat_le h
    rw [Literal.value?, if_pos hinteger, if_pos hlength, Literal.ofDigits, Text.natValue_ofNat]
  have hcomponent : evaluateComponent environment (Text.ofNat n)
      (.number (Literal.ofDigits (Text.ofNat n))) 0 = .ok (.int n) := by
    rw [evaluateComponent, Expr.eval, hvalue, bind_ok, checkFinite, isOversized_int h]
    rfl
  have hone : evaluateExpr environment (Text.ofNat n) (.number (Literal.ofDigits (Text.ofNat n)))
      = [0].mapM (evaluateComponent environment (Text.ofNat n)
          (.number (Literal.ofDigits (Text.ofNat n)))) := rfl
  rw [hone, mapM_eq_ok_iff]
  exact .cons hcomponent .nil

/-- A number up to `2 ^ 53` evaluates to itself. -/
theorem evaluate_ofNat {n : Nat} (h : n ≤ 2 ^ 53) :
    evaluate environment marker (Text.ofNat n) = .ok [.int n] := by
  rw [evaluate_eq_ok_iff, splitTopLevel_digits (fun c => Text.isDigit_of_mem_ofNat)
    (Text.ofNat_ne_nil n)]
  refine ⟨⟨by simp, by simpa using Text.ofNat_ne_nil n⟩, [[.int n]], ?_, rfl,
    by simp [maxComponents]⟩
  exact mapM_eq_ok_iff.mpr (.cons (evaluateSegment_ofNat environment hmarker h) .nil)

/-- Two numbers with a comma in between evaluate to the two. -/
theorem evaluate_pair {m n : Nat} (hm : m ≤ 2 ^ 53) (hn : n ≤ 2 ^ 53) :
    evaluate environment marker (Text.ofNat m ++ (", ".toList ++ Text.ofNat n))
      = .ok [.int m, .int n] := by
  rw [evaluate_eq_ok_iff, splitTopLevel_pair (fun c => Text.isDigit_of_mem_ofNat)
    (fun c => Text.isDigit_of_mem_ofNat) (Text.ofNat_ne_nil n)]
  refine ⟨⟨by simp, ?_⟩, [[.int m], [.int n]], ?_, rfl, by simp [maxComponents]⟩
  · simpa using ⟨Text.ofNat_ne_nil m, Text.ofNat_ne_nil n⟩
  · exact mapM_eq_ok_iff.mpr (.cons (evaluateSegment_ofNat environment hmarker hm)
      (.cons (evaluateSegment_ofNat environment hmarker hn) .nil))

end Evaluate

end ShaderMarkup
