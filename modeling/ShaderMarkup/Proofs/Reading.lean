import Mathlib.Data.List.TakeWhile
import ShaderMarkup.Proofs.Character

/-!
# What readers take

For every elementary reader, the texts that it accepts: a lemma `…_eq_some_iff` splits the text into
the part that is read and the rest.  A reader that takes a longest run also fixes how the rest
starts.  Shapes that are put together with `bind` are taken apart with `Reader.bind_eq_some_iff`
and these lemmas.

`exists_of_searchFrom` does the same for a leftmost search.
-/

namespace ShaderMarkup

namespace Reader

variable {α β : Type}

theorem bind_of_some {first : Reader α} {next : α → Reader β} {text middle : Text} {a : α}
    (h : first text = some (a, middle)) : (first >>= next) text = next a middle := by
  show andThen first next text = _
  rw [andThen, h]

theorem bind_of_none {first : Reader α} {next : α → Reader β} {text : Text}
    (h : first text = none) : (first >>= next) text = none := by
  show andThen first next text = _
  rw [andThen, h]

theorem word_eq_some_iff {expected : String} {text rest : Text} {u : Unit} :
    word expected text = some (u, rest) ↔ text = expected.toList ++ rest :=
  exactly_eq_some_iff

/-- A text cut behind its longest run of a class. -/
theorem longest_run_iff {accepts : Char → Bool} {text taken rest : Text} :
    text.takeWhile accepts = taken ∧ text.dropWhile accepts = rest ↔
      text = taken ++ rest ∧ (∀ c ∈ taken, accepts c = true) ∧
        ∀ c ∈ rest.head?, accepts c = false := by
  constructor
  · rintro ⟨rfl, rfl⟩
    refine ⟨List.takeWhile_append_dropWhile.symm, fun c hc => List.mem_takeWhile_imp hc, ?_⟩
    intro c hc
    have := List.head?_dropWhile_not accepts text
    rw [Option.mem_def.mp hc] at this
    simpa using this
  · rintro ⟨rfl, htaken, hrest⟩
    rw [List.takeWhile_append_of_pos htaken, List.dropWhile_append_of_pos htaken]
    cases rest with
    | nil => simp
    | cons c rest =>
        have hc : accepts c = false := hrest c rfl
        simp [hc]

theorem run_eq_some_iff {accepts : Char → Bool} {text taken rest : Text} :
    run accepts text = some (taken, rest) ↔
      text = taken ++ rest ∧ (∀ c ∈ taken, accepts c = true) ∧
        ∀ c ∈ rest.head?, accepts c = false := by
  rw [← longest_run_iff]
  simp [run]

theorem run1_eq_some_iff {accepts : Char → Bool} {text taken rest : Text} :
    run1 accepts text = some (taken, rest) ↔
      (text = taken ++ rest ∧ (∀ c ∈ taken, accepts c = true) ∧
        ∀ c ∈ rest.head?, accepts c = false) ∧ taken ≠ [] := by
  rw [← longest_run_iff, run1]
  cases htaken : text.takeWhile accepts with
  | nil =>
      constructor
      · intro h
        cases h
      · rintro ⟨⟨rfl, _⟩, h⟩
        exact absurd rfl h
  | cons c others =>
      constructor
      · intro h
        cases h
        exact ⟨⟨rfl, rfl⟩, List.cons_ne_nil _ _⟩
      · rintro ⟨⟨rfl, rfl⟩, _⟩
        rfl

theorem blanks_eq_some_iff {text rest : Text} {u : Unit} :
    blanks text = some (u, rest) ↔
      ∃ gap, text = gap ++ rest ∧ (∀ c ∈ gap, isBlank c = true) ∧
        ∀ c ∈ rest.head?, isBlank c = false := by
  constructor
  · intro h
    cases h
    exact ⟨_, longest_run_iff.mp ⟨rfl, rfl⟩⟩
  · rintro ⟨gap, h⟩
    obtain ⟨_, hrest⟩ := longest_run_iff.mpr h
    rw [blanks, hrest]

theorem blanks1_eq_some_iff {text rest : Text} {u : Unit} :
    blanks1 text = some (u, rest) ↔
      ∃ gap, (text = gap ++ rest ∧ (∀ c ∈ gap, isBlank c = true) ∧
        ∀ c ∈ rest.head?, isBlank c = false) ∧ gap ≠ [] := by
  unfold blanks1
  simp only [bind_eq_some_iff, run1_eq_some_iff, pure_apply, Option.some.injEq, Prod.mk.injEq,
    true_and, exists_eq_right]

/-- A letter or underscore, then word characters. -/
def IsIdentifier (name : Text) : Prop :=
  ∃ c rest, name = c :: rest ∧ isNameStart c = true ∧ ∀ d ∈ rest, isWord d = true

theorem IsIdentifier.isWord {name : Text} (h : IsIdentifier name) : ∀ c ∈ name, isWord c = true := by
  obtain ⟨c, rest, rfl, hc, hrest⟩ := h
  rw [List.forall_mem_cons]
  exact ⟨isWord_of_isNameStart hc, hrest⟩

theorem IsIdentifier.ne_nil {name : Text} (h : IsIdentifier name) : name ≠ [] := by
  obtain ⟨c, rest, rfl, _⟩ := h
  exact List.cons_ne_nil _ _

theorem isIdentifier_cons_iff {c : Char} {rest : Text} :
    IsIdentifier (c :: rest) ↔ isNameStart c = true ∧ ∀ d ∈ rest, isWord d = true := by
  constructor
  · rintro ⟨_, _, heq, hc, hrest⟩
    cases heq
    exact ⟨hc, hrest⟩
  · rintro ⟨hc, hrest⟩
    exact ⟨c, rest, rfl, hc, hrest⟩

instance : DecidablePred IsIdentifier
  | [] => isFalse fun h => h.ne_nil rfl
  | _ :: _ => decidable_of_iff _ isIdentifier_cons_iff.symm

theorem identifier_eq_some_iff {text name rest : Text} :
    identifier text = some (name, rest) ↔
      IsIdentifier name ∧ text = name ++ rest ∧ ∀ c ∈ rest.head?, isWord c = false := by
  cases text with
  | nil =>
      constructor
      · intro h
        cases h
      · rintro ⟨hname, htext, _⟩
        exact absurd (List.append_eq_nil_iff.mp htext.symm).1 hname.ne_nil
  | cons c text =>
      rw [identifier]
      constructor
      · intro h
        split at h
        next hc =>
          cases h
          obtain ⟨htext, hword, hrest⟩ := longest_run_iff.mp ⟨rfl, rfl⟩
          exact ⟨⟨c, _, rfl, hc, hword⟩, congrArg (c :: ·) htext, hrest⟩
        next => cases h
      · rintro ⟨⟨d, others, rfl, hd, hothers⟩, htext, hrest⟩
        obtain ⟨rfl, rfl⟩ : c = d ∧ text = others ++ rest := by simpa using htext
        obtain ⟨htake, hdrop⟩ := longest_run_iff.mpr ⟨rfl, hothers, hrest⟩
        rw [if_pos hd, htake, hdrop]

theorem notBefore_eq_some_iff {rejects : Char → Bool} {text rest : Text} {u : Unit} :
    notBefore rejects text = some (u, rest) ↔
      rest = text ∧ ∀ c ∈ text.head?, rejects c = false := by
  cases text with
  | nil =>
      rw [notBefore, eq_comm (a := rest)]
      simp
  | cons c text =>
      rw [notBefore, eq_comm (a := rest)]
      cases hc : rejects c <;> simp [hc]

theorem one_eq_some_iff {accepts : Char → Bool} {text rest : Text} {c : Char} :
    one accepts text = some (c, rest) ↔ text = c :: rest ∧ accepts c = true := by
  cases text with
  | nil => simp [one]
  | cons d text =>
      rw [one]
      constructor
      · intro h
        split at h
        next hd =>
          cases h
          exact ⟨rfl, hd⟩
        next => cases h
      · rintro ⟨heq, hc⟩
        cases heq
        rw [if_pos hc]

theorem orElse_eq_some_iff {first second : Reader α} {text rest : Text} {value : α} :
    orElse first second text = some (value, rest) ↔
      first text = some (value, rest) ∨
        first text = none ∧ second text = some (value, rest) := by
  rw [orElse]
  cases first text <;> simp

theorem whole_eq_some_iff {reader : Reader α} {text : Text} {value : α} :
    whole reader text = some value ↔ reader text = some (value, []) := by
  rw [whole]
  split
  next other heq => simp [heq]
  next hnot =>
    constructor
    · intro h
      cases h
    · exact fun h => absurd h (hnot value)

theorem optional_eq_some_iff {reader : Reader α} {text rest : Text} {value : Option α} :
    optional reader text = some (value, rest) ↔
      (∃ a, value = some a ∧ reader text = some (a, rest)) ∨
        value = none ∧ reader text = none ∧ rest = text := by
  rw [optional]
  cases reader text with
  | none => simp [eq_comm]
  | some result =>
      obtain ⟨a, remaining⟩ := result
      constructor
      · intro h
        cases h
        exact Or.inl ⟨a, rfl, rfl⟩
      · rintro (⟨b, rfl, h⟩ | ⟨_, h, _⟩)
        · cases h
          rfl
        · cases h

/-! ## Readers that refuse the first character -/

theorem symbol_eq_none {c : Char} {text : Text} (h : text.head? ≠ some c) :
    symbol c text = none := by
  cases text with
  | nil => rfl
  | cons d rest =>
      have hne : d ≠ c := fun heq => h (congrArg some heq)
      rw [symbol, if_neg hne]

theorem one_eq_none {accepts : Char → Bool} {text : Text}
    (h : ∀ c ∈ text.head?, accepts c = false) : one accepts text = none := by
  cases text with
  | nil => rfl
  | cons c rest =>
      have hc : accepts c = false := h c rfl
      rw [one, hc, if_neg (by decide)]

theorem run1_eq_none {accepts : Char → Bool} {text : Text}
    (h : ∀ c ∈ text.head?, accepts c = false) : run1 accepts text = none := by
  cases text with
  | nil => rfl
  | cons c rest =>
      have hc : accepts c = false := h c rfl
      rw [run1, List.takeWhile_cons_of_neg (by simp [hc])]

/-! ## Readers that take off the front -/

/-- What the reader leaves is the end of the text it was given. -/
def Takes (reader : Reader α) : Prop :=
  ∀ text value rest, reader text = some (value, rest) → rest <:+ text

namespace Takes

theorem pure (value : α) : Takes (Pure.pure value : Reader α) := by
  intro text a rest h
  cases h
  exact List.suffix_rfl

theorem bind {first : Reader α} {next : α → Reader β} (hfirst : first.Takes)
    (hnext : ∀ a, (next a).Takes) : Takes (first >>= next) := by
  intro text b rest h
  obtain ⟨a, middle, hread, h⟩ := bind_eq_some_iff.mp h
  exact (hnext a middle b rest h).trans (hfirst text a middle hread)

theorem symbol (c : Char) : (Reader.symbol c).Takes := by
  intro text u rest h
  rw [symbol_eq_some_iff.mp h]
  exact List.suffix_cons c rest

theorem word (expected : String) : (Reader.word expected).Takes := by
  intro text u rest h
  rw [word_eq_some_iff.mp h]
  exact List.suffix_append _ _

theorem run (accepts : Char → Bool) : (Reader.run accepts).Takes := by
  intro text taken rest h
  rw [(run_eq_some_iff.mp h).1]
  exact List.suffix_append _ _

theorem blanks : Reader.blanks.Takes := by
  intro text u rest h
  obtain ⟨gap, rfl, _⟩ := blanks_eq_some_iff.mp h
  exact List.suffix_append _ _

theorem identifier : Reader.identifier.Takes := by
  intro text name rest h
  obtain ⟨_, rfl, _⟩ := identifier_eq_some_iff.mp h
  exact List.suffix_append _ _

theorem orElse {first second : Reader α} (hfirst : first.Takes) (hsecond : second.Takes) :
    (Reader.orElse first second).Takes := by
  intro text value rest h
  rcases orElse_eq_some_iff.mp h with h | ⟨_, h⟩
  · exact hfirst text value rest h
  · exact hsecond text value rest h

end Takes

/-- What is consumed stands in front of the rest. -/
theorem consumed_eq_some {reader : Reader α} (htakes : reader.Takes) {text taken rest : Text}
    (h : consumed reader text = some (taken, rest)) : text = taken ++ rest := by
  unfold consumed at h
  split at h
  next => cases h
  next value remaining hread =>
    cases h
    obtain ⟨front, rfl⟩ := htakes text value rest hread
    simp

end Reader

/-! ## Searching -/

/-- The last element of a list, or the one in front of it where the list is empty. -/
theorem getLast?_cons_or {α : Type} (a : α) (items : List α) (before : Option α) :
    (a :: items).getLast?.or before = items.getLast?.or (some a) := by
  rw [List.getLast?_cons]
  cases items.getLast? <;> rfl

theorem getLast?_append_or {left : Text} (hne : left ≠ []) (right : Text) (before : Option Char) :
    (left ++ right).getLast?.or before = right.getLast?.or left.getLast? := by
  rw [List.getLast?_append, Option.or_assoc]
  cases hlast : left.getLast? with
  | none => exact absurd (List.getLast?_eq_none_iff.mp hlast) hne
  | some c => simp

/-- What a search finds: a place in the text where the recognizer accepts. -/
theorem exists_of_searchFrom {α : Type} {recognizer : Recognizer α} {before : Option Char}
    {offset : Nat} {text : Text} {found : Found α}
    (h : searchFrom recognizer before offset text = some found) :
    ∃ left right rest, text = left ++ right ∧ found.start = offset + left.length ∧
      recognizer (left.getLast?.or before) right = some (found.value, rest) := by
  induction text generalizing before offset with
  | nil =>
      rw [searchFrom] at h
      split at h
      next value rest hread =>
        cases h
        exact ⟨[], [], rest, rfl, rfl, hread⟩
      next => cases h
  | cons c text ih =>
      rw [searchFrom] at h
      split at h
      next value rest hread =>
        cases h
        exact ⟨[], c :: text, rest, rfl, rfl, hread⟩
      next =>
        obtain ⟨left, right, rest, rfl, hstart, hread⟩ := ih h
        refine ⟨c :: left, right, rest, rfl, ?_, by rwa [getLast?_cons_or]⟩
        rw [hstart, List.length_cons]
        omega

/-- A search that finds nothing: the recognizer refuses at every place of the text. -/
theorem eq_none_of_searchFrom {α : Type} {recognizer : Recognizer α} {before : Option Char}
    {offset : Nat} {text : Text} (h : searchFrom recognizer before offset text = none)
    {left right : Text} (htext : text = left ++ right) :
    recognizer (left.getLast?.or before) right = none := by
  induction text generalizing before offset left with
  | nil =>
      obtain ⟨rfl, rfl⟩ := List.append_eq_nil_iff.mp htext.symm
      rw [searchFrom] at h
      split at h
      next => cases h
      next hread => exact hread
  | cons c text ih =>
      rw [searchFrom] at h
      split at h
      next => cases h
      next hread =>
        cases left with
        | nil =>
            obtain rfl : c :: text = right := htext
            exact hread
        | cons d left =>
            obtain ⟨rfl, rfl⟩ : c = d ∧ text = left ++ right := by simpa using htext
            rw [getLast?_cons_or]
            exact ih h rfl

theorem eq_none_of_not_occurs {α : Type} {recognizer : Recognizer α} {text : Text}
    (h : occurs recognizer text = false) {left right : Text} (htext : text = left ++ right) :
    recognizer left.getLast? right = none := by
  have hnone : searchFrom recognizer none 0 text = none := by simpa [occurs, search] using h
  simpa using eq_none_of_searchFrom hnone htext

/-- What is read somewhere occurs. -/
theorem occurs_of_suffix {α : Type} {reader : Reader α} {text left right : Text}
    (htext : text = left ++ right) (hread : (reader right).isSome) :
    occurs (anywhere reader) text = true := by
  by_contra hnot
  have hnone : reader right = none := eq_none_of_not_occurs (Bool.eq_false_iff.mpr hnot) htext
  rw [hnone] at hread
  cases hread

/-- What the search for a variable finds: a place in the text where the shape is read. -/
theorem exists_of_findVariable? {α : Type} {shape : Reader α} {text : Text} {found : Found α}
    (h : findVariable? shape text = some found) :
    ∃ left right rest, text = left ++ right ∧ found.start = left.length ∧
      shape right = some (found.value, rest) := by
  obtain ⟨left, right, rest, htext, hstart, hread⟩ := exists_of_searchFrom h
  refine ⟨left, right, rest, htext, by simpa using hstart, ?_⟩
  unfold atWordStart at hread
  split at hread
  · cases hread
  · exact hread

end ShaderMarkup
