import ShaderMarkup.Text.Basic

/-!
# Readers

A reader takes something off the front of a text, or refuses.  The shapes of declarations are
written as readers: a reader never looks back, and each shape fixes what may follow, so a longest
run is always the right one to take.

`search` runs a reader at the leftmost place where it accepts.  A reader that has to start a word
is guarded by `atWordStart`, which sees the character in front of the place.
-/

namespace ShaderMarkup

/-- Reads a value off the front of a text and returns it with the rest, or refuses. -/
def Reader (α : Type) : Type :=
  Text → Option (α × Text)

namespace Reader

variable {α β : Type}

/-- Reads nothing and returns the value. -/
def succeed (value : α) : Reader α :=
  fun text => some (value, text)

/-- Reads with `first`, then with what its value chooses. -/
def andThen (first : Reader α) (next : α → Reader β) : Reader β :=
  fun text =>
    match first text with
    | none => none
    | some (value, rest) => next value rest

instance : Monad Reader where
  pure := succeed
  bind := andThen

@[simp] theorem pure_apply (value : α) (text : Text) :
    (pure value : Reader α) text = some (value, text) :=
  rfl

theorem bind_eq_some_iff {first : Reader α} {next : α → Reader β} {text rest : Text} {b : β} :
    (first >>= next) text = some (b, rest) ↔
      ∃ a middle, first text = some (a, middle) ∧ next a middle = some (b, rest) := by
  show andThen first next text = some (b, rest) ↔ _
  rw [andThen]
  cases first text with
  | none => simp
  | some result =>
      obtain ⟨a, middle⟩ := result
      constructor
      · intro h
        exact ⟨a, middle, rfl, h⟩
      · rintro ⟨a', middle', heq, h⟩
        cases heq
        exact h

/-! ## Single characters and words -/

/-- Reads the character `c`. -/
def symbol (c : Char) : Reader Unit
  | d :: rest => if d = c then some ((), rest) else none
  | [] => none

@[simp] theorem symbol_eq_some_iff {c : Char} {text rest : Text} {u : Unit} :
    symbol c text = some (u, rest) ↔ text = c :: rest := by
  cases text with
  | nil => simp [symbol]
  | cons d remaining =>
      by_cases h : d = c <;> simp [symbol, h]

/-- Reads one character of the class. -/
def one (accepts : Char → Bool) : Reader Char
  | c :: rest => if accepts c then some (c, rest) else none
  | [] => none

/-- Reads exactly the given text. -/
def exactly (expected : Text) : Reader Unit :=
  fun text =>
    if expected.isPrefixOf text then some ((), text.drop expected.length) else none

@[simp] theorem exactly_eq_some_iff {expected text rest : Text} {u : Unit} :
    exactly expected text = some (u, rest) ↔ text = expected ++ rest := by
  rw [exactly]
  split
  next h =>
    obtain ⟨tail, rfl⟩ := List.isPrefixOf_iff_prefix.mp h
    simp
  next h =>
    constructor
    · intro heq
      cases heq
    · rintro rfl
      exact absurd (List.isPrefixOf_iff_prefix.mpr (List.prefix_append _ _)) h

/-- Reads exactly the given word. -/
def word (expected : String) : Reader Unit :=
  exactly expected.toList

/-- Reads the longest run of characters of the class. -/
def run (accepts : Char → Bool) : Reader Text :=
  fun text => some (text.takeWhile accepts, text.dropWhile accepts)

/-- Reads the longest run of characters of the class; refuses an empty one. -/
def run1 (accepts : Char → Bool) : Reader Text :=
  fun text =>
    match text.takeWhile accepts with
    | [] => none
    | taken => some (taken, text.dropWhile accepts)

/-- Reads white space, possibly none. -/
def blanks : Reader Unit :=
  fun text => some ((), text.dropWhile isBlank)

/-- Reads at least one character of white space. -/
def blanks1 : Reader Unit := do
  let _ ← run1 isBlank
  pure ()

/-- Reads an identifier: a letter or underscore, then word characters. -/
def identifier : Reader Text
  | c :: rest =>
      if isNameStart c then some (c :: rest.takeWhile isWord, rest.dropWhile isWord) else none
  | [] => none

/-! ## Looking ahead, choices and whole texts -/

/-- Reads nothing; refuses when the next character is of the class. -/
def notBefore (rejects : Char → Bool) : Reader Unit
  | c :: rest => if rejects c then none else some ((), c :: rest)
  | [] => some ((), [])

/-- Reads with the first reader or, where it refuses, with the second. -/
def orElse (first second : Reader α) : Reader α :=
  fun text =>
    match first text with
    | none => second text
    | some result => some result

/-- Reads with the reader where it accepts, and nothing where it refuses. -/
def optional (reader : Reader α) : Reader (Option α) :=
  fun text =>
    match reader text with
    | none => some (none, text)
    | some (value, rest) => some (some value, rest)

/-- The text that the reader reads, in place of its value. -/
def consumed (reader : Reader α) : Reader Text :=
  fun text =>
    match reader text with
    | none => none
    | some (_, rest) => some (text.take (text.length - rest.length), rest)

/-- The value of a reader that reads the whole text. -/
def whole (reader : Reader α) (text : Text) : Option α :=
  match reader text with
  | some (value, []) => some value
  | _ => none

end Reader

/-! ## Leftmost search -/

/-- A reader that may look at the character in front of its place, if there is one. -/
abbrev Recognizer (α : Type) : Type :=
  Option Char → Reader α

variable {α : Type}

/-- Reads only where no word character stands in front. -/
def atWordStart (reader : Reader α) : Recognizer α :=
  fun before text => if before.any isWord then none else reader text

/-- Reads at any place. -/
def anywhere (reader : Reader α) : Recognizer α :=
  fun _ text => reader text

/-- A value found in a text, with the range of characters it was read from. -/
structure Found (α : Type) where
  value : α
  start : Nat
  stop : Nat
deriving DecidableEq

/-- Searches from a place with the character `before` in front of it and `offset` characters to
its left. -/
def searchFrom (recognizer : Recognizer α) : Option Char → Nat → Text → Option (Found α)
  | before, offset, [] =>
      match recognizer before [] with
      | some (value, _) => some ⟨value, offset, offset⟩
      | none => none
  | before, offset, c :: rest =>
      match recognizer before (c :: rest) with
      | some (value, remaining) =>
          some ⟨value, offset, offset + ((c :: rest).length - remaining.length)⟩
      | none => searchFrom recognizer (some c) (offset + 1) rest

/-- The leftmost place where the recognizer accepts. -/
def search (recognizer : Recognizer α) (text : Text) : Option (Found α) :=
  searchFrom recognizer none 0 text

/-- Whether the recognizer accepts somewhere in the text. -/
def occurs (recognizer : Recognizer α) (text : Text) : Bool :=
  (search recognizer text).isSome

end ShaderMarkup
