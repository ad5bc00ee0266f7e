import ShaderMarkup.Decorator.Removal
import ShaderMarkup.Table

/-!
# Structs

A struct is known by the text between its braces.  Its fields are separated by commas or
semicolons outside all brackets, angle brackets included, and may carry decorators, which do not
belong to the field.
-/

namespace ShaderMarkup

/-- Struct bodies by name. -/
abbrev StructTable := Table Text Text

/-- Reads the keyword, the name and the opening brace of a struct.  The value also holds the text
up to the closing brace, if there is one; that text is not read over, so that a struct inside it is
found as well. -/
def structHeader : Reader (Text × Option Text) := do
  Reader.word "struct"
  Reader.blanks1
  let name ← Reader.identifier
  Reader.blanks
  Reader.symbol '\x7b'
  fun rest =>
    let body := (closingBrace? ('\x7b' :: rest)).map fun offset => rest.take (offset - 1)
    some ((name, body), rest)

/-- The structs of a source whose braces close.  Of two with one name the first counts. -/
def structDefinitions (code : Text) : StructTable :=
  Table.ofListNew <| (searchAll (atWordStart structHeader) code).filterMap fun found =>
    found.value.2.map fun body => (found.value.1, body)

/-- Reads a field: its name, a colon and its type. -/
def structField : Reader (Text × Text) := do
  let name ← Reader.identifier
  Reader.blanks
  Reader.symbol ':'
  Reader.blanks
  let type ← Reader.run1 fun _ => true
  pure (name, Text.collapse type)

/-- The fields of a struct body with their types.  Of two with one name the second type counts, in
the place of the first. -/
def structFields (body : Text) : Table Text Text :=
  Table.ofList <| (splitTopLevel [',', ';'] true body).filterMap fun piece =>
    Reader.whole structField (Text.trim (removeDecorators (fun _ => true) piece))

end ShaderMarkup
