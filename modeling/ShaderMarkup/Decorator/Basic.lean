import ShaderMarkup.Text.Bracket
import ShaderMarkup.Text.Segment

/-!
# Decorators

A decorator is `@name`, or `@name(argument)` where the argument may hold brackets and further
decorators.  Where the closing bracket is missing the argument runs to the end of the text.

`Decorator.read` reads one decorator and `calls` finds those of a text that stand in no other's
argument.  The decorators inside an argument are the calls of that argument.
-/

namespace ShaderMarkup

/-- One decorator: its name, the text between its brackets if it has any, and whether the closing
bracket was there. -/
structure Decorator where
  name : Text
  argument : Option Text := none
  balanced : Bool := true
deriving DecidableEq

/-- The white space that may stand between a decorator's name and its bracket. -/
def isGap (c : Char) : Bool :=
  c == ' ' || c == '\t' || c == '\r' || c == '\n'

/-- A decorator found in a text, with its range. -/
abbrev Call := Found Decorator

namespace Decorator

/-- Reads what follows the name: an argument in brackets, or nothing. -/
def readArgument (name afterName : Text) : Decorator × Text :=
  match afterName.dropWhile isGap with
  | '(' :: body =>
      match closingBracket? ('(' :: body) with
      | some width => (⟨name, some (body.take (width - 1)), true⟩, body.drop width)
      | none => (⟨name, some body, false⟩, [])
  | _ => (⟨name, none, true⟩, afterName)

/-- Reads a decorator. -/
def read : Reader Decorator
  | '@' :: rest =>
      match Reader.identifier rest with
      | some (name, afterName) => some (readArgument name afterName)
      | none => none
  | _ => none

/-- The argument without white space at its ends; nothing for a decorator without one. -/
def trimmedArgument (decorator : Decorator) : Text :=
  Text.trim (decorator.argument.getD [])

end Decorator

/-- The text cut into decorators and single characters. -/
def decoratorSegments (text : Text) : List (Segment Decorator) :=
  segments (anywhere Decorator.read) text

/-- The decorators of a text that stand in no other decorator's argument, from left to right. -/
def calls (text : Text) : List Call :=
  searchAll (anywhere Decorator.read) text

/-- The decorators that stand directly in the argument; their ranges count from its start. -/
def Decorator.children (decorator : Decorator) : List Call :=
  match decorator.argument with
  | none => []
  | some argument => calls argument

/-! ## All depths -/

/-- The decorators down to a nesting depth, each before those in its argument. -/
def walkWithin : Nat → Text → List Call
  | 0, _ => []
  | depth + 1, text =>
      (calls text).flatMap fun call =>
        match call.value.argument with
        | none => [call]
        | some argument => call :: walkWithin depth argument

/-- All decorators of a text, each before those in its argument.  An argument is shorter than the
text around it, so no decorator lies deeper than the text is long. -/
def walk (text : Text) : List Call :=
  walkWithin text.length text

/-- The first decorator of that name at any depth. -/
def findDecorator? (text name : Text) : Option Call :=
  (walk text).find? fun call => call.value.name = name

end ShaderMarkup
