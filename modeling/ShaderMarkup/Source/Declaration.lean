import ShaderMarkup.Decorator.Basic
import ShaderMarkup.Resource.Kind
import ShaderMarkup.Source.Statement

/-!
# Declarations

A statement declares a resource when one of its decorators, none of those inside arguments, names
a kind of resource.  The first such decorator gives the kind.
-/

namespace ShaderMarkup

/-- A statement that declares a resource: its kind, the kinds all its decorators name, the line it
starts on and its place among the declarations of the source. -/
structure Declaration where
  kind : ResourceKind
  text : Text
  line : Nat
  index : Nat
  creators : List ResourceKind
deriving DecidableEq

/-- The kinds that the decorators of a text name. -/
def creatorKinds (text : Text) : List ResourceKind :=
  (calls text).filterMap fun call => ResourceKind.ofDecorator? call.value.name

/-- The declarations among statements, counted from an index. -/
def declarationsFrom (code : Text) : Nat → List Statement → List Declaration
  | _, [] => []
  | index, statement :: rest =>
      match creatorKinds statement.text with
      | [] => declarationsFrom code index rest
      | kind :: others =>
          ⟨kind, statement.text, Text.lineAt code statement.start, index, kind :: others⟩
            :: declarationsFrom code (index + 1) rest

/-- The declarations of a source, in order. -/
def declarations (code : Text) : List Declaration :=
  declarationsFrom code 0 (statements code)

end ShaderMarkup
