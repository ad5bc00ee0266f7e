import ShaderMarkup.Decorator.Basic
import ShaderMarkup.Report.Fault

/-!
# Checks shared by all declarations

Brackets have to occur in equal numbers, `@group` has to come before `@binding`, and the slot they
give is made of natural numbers.  Sizes are positive integers.
-/

namespace ShaderMarkup

/-! ## Structure -/

/-- The bracket pairs whose numbers are compared. -/
def bracketPairs : List (Char × Char) :=
  [('(', ')'), ('[', ']'), ('\x7b', '\x7d'), ('<', '>')]

/-- The bracket pairs that do not occur in equal numbers. -/
def bracketIssues (text : Text) : List Issue :=
  bracketPairs.filterMap fun (opening, closing) =>
    let opened := text.count opening
    let closed := text.count closing
    if opened = closed then none else some (.mismatchedBrackets opening closing opened closed)

/-- Reads the name of a decorator as a whole word. -/
def decoratorMark (name : String) : Reader Unit := do
  Reader.symbol '@'
  Reader.word name
  Reader.notBefore isWord

/-- Whether `@binding` comes before `@group`. -/
def orderIssues (text : Text) : List Issue :=
  match search (anywhere (decoratorMark "group")) text,
      search (anywhere (decoratorMark "binding")) text with
  | some group, some binding => if binding.start < group.start then [.bindingBeforeGroup] else []
  | _, _ => []

/-! ## Slots -/

/-- The natural number that is the argument of a slot decorator. -/
def slotNumber (decorator : Decorator) : Check Nat :=
  let argument := decorator.trimmedArgument
  let leading := (argument.takeWhile isDecimal).length
  if argument.isEmpty || !argument.all isDigit then
    refuse (.slotNotNatural decorator.name argument)
  else if Text.maxDigits < leading then giveUp (.integerLength leading)
  else if leading < argument.length then giveUp (.slotDigits argument)
  else .ok (Text.natValue argument)

/-- The number that the first decorator of a name gives, if there is one. -/
def slotPart (text : Text) (name : String) : Check (Option Int) :=
  match findDecorator? text name.toList with
  | none => .ok none
  | some call => do
      let number ← slotNumber call.value
      pure (some (number : Int))

/-- The group, zero where none is given, and the binding of a declaration. -/
def slotOf (text : Text) : Check (Int × Option Int) := do
  let group ← slotPart text "group"
  let binding ← slotPart text "binding"
  pure (group.getD 0, binding)

/-! ## Sizes -/

/-- A positive integer, for what the message calls `what`. -/
def positiveInteger (what : Text) (value : Number) : Check Int :=
  if value.atMost (.int 0) then refuse (.notPositive what value)
  else if value.isOversized then giveUp .integerRange
  else
    match value.toInt? with
    | some n => .ok n
    | none => refuse (.notInteger what value)

/-- The argument of the first decorator of a name, if it holds more than white space. -/
def filledArgument? (text : Text) (name : String) : Option Text :=
  match findDecorator? text name.toList with
  | some call => if call.value.trimmedArgument.isEmpty then none else call.value.argument
  | none => none

end ShaderMarkup
