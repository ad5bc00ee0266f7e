import ShaderMarkup.Text.Basic

/-!
# Statements

A statement ends with a `;` outside braces or with the brace that closes a block at the top level,
so a function or a struct is one statement.  A closing brace too many leaves the depth at zero and
ends a statement as well.
-/

namespace ShaderMarkup

/-- The text cut behind every end of a statement.  The last chunk is what follows the last end. -/
def statementChunks : Nat → Text → List Text
  | _, [] => [[]]
  | depth, c :: rest =>
      if c = '\x7b' then Text.onFirst c (statementChunks (depth + 1) rest)
      else if c = '\x7d' then
        if depth - 1 = 0 then [c] :: statementChunks 0 rest
        else Text.onFirst c (statementChunks (depth - 1) rest)
      else if c = ';' ∧ depth = 0 then [c] :: statementChunks 0 rest
      else Text.onFirst c (statementChunks depth rest)

@[simp] theorem flatten_statementChunks (depth : Nat) (text : Text) :
    (statementChunks depth text).flatten = text := by
  induction text generalizing depth with
  | nil => rfl
  | cons c rest ih =>
      rw [statementChunks]
      split
      · simp [ih]
      · split
        · split <;> simp [ih]
        · split <;> simp [ih]

/-- A statement without the white space around it, and where it starts. -/
structure Statement where
  text : Text
  start : Nat
deriving DecidableEq

/-- The statements of chunks that start at an offset; a chunk of white space holds none. -/
def statementsFrom : Nat → List Text → List Statement
  | _, [] => []
  | offset, chunk :: rest =>
      let remaining := statementsFrom (offset + chunk.length) rest
      let inner := Text.trimLeft chunk
      if inner.isEmpty then remaining
      else ⟨Text.trimRight inner, offset + (chunk.length - inner.length)⟩ :: remaining

/-- The statements of a source. -/
def statements (code : Text) : List Statement :=
  statementsFrom 0 (statementChunks 0 code)

end ShaderMarkup
