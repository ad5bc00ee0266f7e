import ShaderMarkup.Expression.Wildcard
import ShaderMarkup.Proofs.Expression
import ShaderMarkup.Proofs.Outcome

/-!
# What a use of a wildcard picks

A use of a wildcard starts from the whole vector, and its accessors pick components from left to
right.

* No index keeps the vector, one index picks the component at its place, and two indices pick a cell
  of the square matrix that the vector is row by row (`Picks`).
* Each letter of a swizzle picks the component at its place, by its name as a coordinate or as a
  colour (`LetterPicks`).  A letter may come twice, and the order is that of the letters.

`WildcardUse.Selects` puts the two together, and `resolve_eq_ok_iff_selects` says that this is what
is computed.  A use with an accessor that picks nothing has no value.
-/

namespace ShaderMarkup

/-! ## Indices -/

/-- The place that an index names: a numeral of decimal digits, not too long, and its value. -/
structure IsIndex (literal : Literal) (index : Nat) : Prop where
  integer : literal.isInteger = true
  short : literal.whole.length ≤ Text.maxDigits
  value : Text.natValue literal.whole = index

theorem indexValue_eq_ok_iff {literal : Literal} {index : Nat} :
    indexValue literal = .ok index ↔ IsIndex literal index := by
  unfold indexValue
  constructor
  · intro h
    split at h
    next => cases h
    next hinteger =>
      split at h
      next => cases h
      next hshort =>
        cases h
        exact ⟨by simpa using hinteger, by omega, rfl⟩
  · rintro ⟨hinteger, hshort, rfl⟩
    rw [if_neg (by simp [hinteger]), if_neg (by omega)]

theorem squareSide?_eq_some_iff {width side : Nat} :
    squareSide? width = some side ↔ side * side = width := by
  rw [squareSide?, List.find?_range_eq_some, decide_eq_true_iff, List.mem_range]
  constructor
  · exact fun h => h.1
  · rintro rfl
    refine ⟨rfl, Nat.lt_succ_of_le (Nat.le_mul_self side), fun other hother => ?_⟩
    have hne : other * other ≠ side * side := fun h => absurd (Nat.mul_self_inj.mp h) (by omega)
    simpa using hne

/-- What indices pick from a vector. -/
inductive Picks (values : List Number) : List Nat → List Number → Prop
  | whole : Picks values [] values
  | component {index : Nat} {value : Number} (h : values[index]? = some value) :
      Picks values [index] [value]
  | cell {side row column : Nat} {value : Number} (hside : side * side = values.length)
      (hrow : row < side) (hcolumn : column < side)
      (h : values[row * side + column]? = some value) : Picks values [row, column] [value]

theorem pickIndexed_eq_ok_iff {name : Text} {values picked : List Number} {indices : List Nat} :
    pickIndexed name values indices = .ok picked ↔ Picks values indices picked := by
  constructor
  · intro h
    unfold pickIndexed at h
    split at h
    next =>
      cases h
      exact .whole
    next index =>
      split at h
      next value hvalue =>
        cases h
        exact .component hvalue
      next => cases h
    next row column =>
      split at h
      next => cases h
      next side hside =>
        split at h
        next hcell =>
          split at h
          next value hvalue =>
            cases h
            exact .cell (squareSide?_eq_some_iff.mp hside) hcell.1 hcell.2 hvalue
          next => cases h
        next => cases h
    next => cases h
  · intro h
    cases h with
    | whole => rfl
    | component h => rw [pickIndexed, h]
    | cell hside hrow hcolumn h =>
        rw [pickIndexed, squareSide?_eq_some_iff.mpr hside]
        dsimp only
        rw [if_pos ⟨hrow, hcolumn⟩, h]

/-- Every cell of a square matrix can be picked. -/
theorem Picks.exists_cell {values : List Number} {side row column : Nat}
    (hside : side * side = values.length) (hrow : row < side) (hcolumn : column < side) :
    ∃ value, Picks values [row, column] [value] := by
  have hlt : row * side + column < values.length := by
    calc row * side + column < row * side + side := by omega
      _ = (row + 1) * side := by rw [Nat.succ_mul]
      _ ≤ side * side := Nat.mul_le_mul_right side hrow
      _ = values.length := hside
  exact ⟨_, .cell hside hrow hcolumn (List.getElem?_eq_getElem hlt)⟩

theorem Picks.length {values picked : List Number} {indices : List Nat}
    (h : Picks values indices picked) : picked.length = values.length ∨ picked.length = 1 := by
  cases h with
  | whole => exact Or.inl rfl
  | component => exact Or.inr rfl
  | cell => exact Or.inr rfl

/-! ## Swizzles -/

/-- The letter names the place, as a coordinate or as a colour. -/
def NamesPlace (letter : Char) (place : Nat) : Prop :=
  "xyzw".toList[place]? = some letter ∨ "rgba".toList[place]? = some letter

/-- The component that a letter picks from a vector. -/
def LetterPicks (values : List Number) (letter : Char) (value : Number) : Prop :=
  ∃ place, NamesPlace letter place ∧ values[place]? = some value

theorem namesPlace_iff {letter : Char} (h : Token.isComponentLetter letter = true) {place : Nat} :
    NamesPlace letter place ↔ componentIndex letter = place := by
  have hplaces : ∀ place < 4, (∀ c ∈ "xyzw".toList[place]?, componentIndex c = place) ∧
      ∀ c ∈ "rgba".toList[place]?, componentIndex c = place := by decide
  have hletters : ∀ c ∈ ['x', 'y', 'z', 'w', 'r', 'g', 'b', 'a'],
      "xyzw".toList[componentIndex c]? = some c ∨ "rgba".toList[componentIndex c]? = some c := by
    decide
  constructor
  · rintro (hnames | hnames)
    · exact (hplaces place (List.getElem?_eq_some_iff.mp hnames).1).1 letter hnames
    · exact (hplaces place (List.getElem?_eq_some_iff.mp hnames).1).2 letter hnames
  · rintro rfl
    exact hletters letter (by simpa [Token.isComponentLetter] using h)

theorem letterPicks_iff {letter : Char} (h : Token.isComponentLetter letter = true)
    {values : List Number} {value : Number} :
    LetterPicks values letter value ↔ values[componentIndex letter]? = some value := by
  unfold LetterPicks
  simp only [namesPlace_iff h, exists_eq_left']

theorem pickLetters_eq_ok_iff {name letters : Text} {values picked : List Number}
    (h : ∀ letter ∈ letters, Token.isComponentLetter letter = true) :
    pickLetters name values letters = .ok picked ↔
      List.Forall₂ (LetterPicks values) letters picked := by
  rw [pickLetters, mapM_eq_ok_iff]
  induction letters generalizing picked with
  | nil => simp
  | cons letter rest ih =>
      obtain ⟨hfirst, hrest⟩ := List.forall_mem_cons.mp h
      simp only [List.forall₂_cons_left_iff, letterPicks_iff hfirst, ih hrest]
      refine exists_congr fun value => exists_congr fun others => and_congr_left fun _ => ?_
      cases values[componentIndex letter]? <;> simp [refuse]

/-! ## Uses -/

/-- The components that a use of a wildcard stands for: those that its swizzle picks from those that
its indices pick from the vector of the name. -/
def WildcardUse.Selects (environment : Environment) (use : WildcardUse) (picked : List Number) :
    Prop :=
  ∃ vector indices indexed, environment.lookup? use.name = some vector ∧
    List.Forall₂ IsIndex use.indices indices ∧ Picks vector indices indexed ∧
    match use.swizzle with
    | none => picked = indexed
    | some letters => List.Forall₂ (LetterPicks indexed) letters picked

section Uses

variable {environment : Environment} {use : WildcardUse} {picked : List Number}
  (hswizzle : ∀ letters ∈ use.swizzle, Token.IsSwizzle letters)
include hswizzle

/-- A use of a wildcard has the components that its accessors pick, and no others. -/
theorem resolve_eq_ok_iff_selects :
    use.resolve environment = .ok picked ↔ use.Selects environment picked := by
  unfold WildcardUse.resolve WildcardUse.Selects
  cases environment.lookup? use.name with
  | none => simp [refuse]
  | some vector =>
      simp only [bind_eq_ok_iff, mapM_eq_ok_iff, indexValue_eq_ok_iff, pickIndexed_eq_ok_iff,
        Option.some.injEq, exists_and_left, exists_eq_left']
      refine exists_congr fun indices => and_congr_right fun _ => exists_congr fun indexed =>
        and_congr_right fun _ => ?_
      cases hletters : use.swizzle with
      | none => exact ⟨fun h => (Except.ok.inj h).symm, fun h => congrArg Except.ok h.symm⟩
      | some letters => exact pickLetters_eq_ok_iff (hswizzle letters hletters).isLetter

theorem length_resolve (h : use.resolve environment = .ok picked) :
    1 ≤ picked.length ∧ picked.length ≤ 4 := by
  obtain ⟨vector, indices, indexed, hvector, -, hindexed, hpicked⟩ :=
    (resolve_eq_ok_iff_selects hswizzle).mp h
  obtain ⟨wildcard, -, rfl⟩ := Option.map_eq_some_iff.mp hvector
  have hpos := wildcard.width_pos
  have hle := wildcard.width_le
  have hlength := hindexed.length
  split at hpicked
  next =>
    rw [hpicked]
    omega
  next letters hletters =>
    obtain ⟨hne, hshort, -⟩ := hswizzle letters hletters
    have heq := hpicked.length_eq
    have hletters := List.length_pos_of_ne_nil hne
    omega

end Uses

end ShaderMarkup
