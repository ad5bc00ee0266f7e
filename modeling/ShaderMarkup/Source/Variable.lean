import ShaderMarkup.Resource.Kind
import ShaderMarkup.Text.Reader

/-!
# Variable declarations

The shapes in which shader text declares the variable of a resource, one reader per shape.  All of
them start with the word `var`, so they are searched for at the start of a word.
-/

namespace ShaderMarkup

/-- A variable with its type as written and, for storage, its access. -/
structure Variable where
  name : Text
  type : Text
  access : Option Text := none
deriving DecidableEq

/-! ## Parts of a declaration -/

/-- Reads `<`, a text without angle brackets and semicolons, and `>`. -/
def templateArguments : Reader Unit := do
  Reader.symbol '<'
  let _ ← Reader.run fun c => c != '<' && c != '>' && c != ';'
  Reader.symbol '>'

/-- Reads `var`, white space, a name and a colon. -/
def plainHead : Reader Text := do
  Reader.word "var"
  Reader.blanks1
  let name ← Reader.identifier
  Reader.blanks
  Reader.symbol ':'
  pure name

/-- Reads the word for an access: `read_write` or `read`. -/
def accessWord : Reader Text :=
  Reader.orElse
    (do Reader.word "read_write"; pure "read_write".toList)
    (do Reader.word "read"; pure "read".toList)

/-- Reads `var<storage, access>`. -/
def storageQualifier : Reader Text := do
  Reader.word "var"
  Reader.blanks
  Reader.symbol '<'
  Reader.blanks
  Reader.word "storage"
  Reader.blanks
  Reader.symbol ','
  Reader.blanks
  let access ← accessWord
  Reader.blanks
  Reader.symbol '>'
  pure access

/-- Reads `var<uniform>`. -/
def uniformQualifier : Reader Unit := do
  Reader.word "var"
  Reader.blanks
  Reader.symbol '<'
  Reader.blanks
  Reader.word "uniform"
  Reader.blanks
  Reader.symbol '>'

/-- Reads white space, a name, white space and a colon. -/
def nameAndColon : Reader Text := do
  Reader.blanks
  let name ← Reader.identifier
  Reader.blanks
  Reader.symbol ':'
  pure name

/-- Reads white space and a type that runs up to a stop or the end.  A type is never empty: where
only white space stands before the stop, its last character is taken for the type. -/
def typeUpTo (stops : Char → Bool) : Reader Text :=
  fun text =>
    let rest := text.dropWhile isBlank
    match rest.takeWhile (fun c => !stops c) with
    | [] => (text.takeWhile isBlank).getLast?.map fun c => ([c], rest)
    | taken => some (taken, rest.dropWhile (fun c => !stops c))

/-- Reads a block in braces without braces inside. -/
def flatBlock : Reader Unit := do
  Reader.symbol '\x7b'
  let _ ← Reader.run (· != '\x7d')
  Reader.symbol '\x7d'

/-! ## The shapes -/

/-- Reads `var name: texture_type`, with template arguments if there are any. -/
def textureVariable : Reader Variable := do
  let name ← plainHead
  Reader.blanks
  let type ← Reader.consumed do
    Reader.word "texture_"
    let _ ← Reader.run1 isWord
    let _ ← Reader.optional do
      Reader.blanks
      templateArguments
    pure ()
  pure { name, type }

/-- Reads `var<storage, access> name: type`, where the type may end in a block. -/
def storageVariable : Reader Variable := do
  let access ← storageQualifier
  let name ← nameAndColon
  let type ← typeUpTo fun c => c == ';' || c == '\x7b'
  let block ← Reader.optional (Reader.consumed flatBlock)
  pure { name, type := type ++ block.getD [], access := some access }

/-- Reads `var<uniform> name: Type`, where the type is an identifier. -/
def uniformVariable : Reader Variable := do
  uniformQualifier
  let name ← nameAndColon
  Reader.blanks
  let type ← Reader.identifier
  pure { name, type }

/-- Reads `var name: sampler` or `var name: sampler_comparison`. -/
def samplerVariable : Reader Variable := do
  let name ← plainHead
  Reader.blanks
  let type ← Reader.consumed do
    Reader.word "sampler"
    let _ ← Reader.optional (Reader.word "_comparison")
    pure ()
  Reader.notBefore isWord
  pure { name, type }

/-- Reads `var<uniform> name: type` with any type. -/
def anyUniformVariable : Reader Variable := do
  uniformQualifier
  let name ← nameAndColon
  let type ← typeUpTo (· == ';')
  pure { name, type }

/-- Reads `var name: type` with any type. -/
def anyPlainVariable : Reader Variable := do
  let name ← plainHead
  let type ← typeUpTo (· == ';')
  pure { name, type }

/-- Reads `var`, template arguments if there are any, a name and a colon. -/
def namedVariable : Reader Text := do
  Reader.word "var"
  Reader.notBefore isWord
  let _ ← Reader.optional do
    Reader.blanks
    templateArguments
  nameAndColon

/-- The leftmost variable of a shape. -/
def findVariable? {α : Type} (shape : Reader α) (text : Text) : Option (Found α) :=
  search (atWordStart shape) text

end ShaderMarkup
