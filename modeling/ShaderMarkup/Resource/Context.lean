import ShaderMarkup.Expression.Evaluate
import ShaderMarkup.Resource.Basic
import ShaderMarkup.Source.Declaration
import ShaderMarkup.Source.Function
import ShaderMarkup.Source.Struct

/-!
# Contexts

What the declarations of a source are read against: the wildcards and the settings of the call, and
the functions and structs of the source.
-/

namespace ShaderMarkup

/-- The settings of a call: the marker of wildcards, the size of the viewport if it is known, and
the largest canvas. -/
structure Settings where
  marker : Text := "info.".toList
  viewport : Option (Number × Number) := none
  maxCanvasSize : Int := 16384

/-- What declarations and entry points are read against.  The code is free of comments. -/
structure Context where
  code : Text
  environment : Environment
  settings : Settings
  functions : List Text
  structs : StructTable

namespace Context

/-- The context of a source without comments. -/
def ofCode (code : Text) (environment : Environment) (settings : Settings) : Context where
  code
  environment
  settings
  functions := functionBodies code
  structs := structDefinitions code

/-- The numbers that an expression yields. -/
def evaluate (context : Context) (expression : Text) : Check (List Number) :=
  ShaderMarkup.evaluate context.environment context.settings.marker expression

/-- The names of the wildcards that expressions mention. -/
def mentioned (context : Context) (expressions : List Text) : List Text :=
  Text.nameSet (expressions.flatMap (mentionedWildcards context.settings.marker))

/-- The resource of a declaration, from its variable, its slot, the expressions it depends on and
what is special to its kind. -/
def resource (context : Context) (declaration : Declaration) (name : Text)
    (slot : Int × Option Int) (expressions : List Text) (detail : Detail) : Resource where
  name
  group := slot.1
  binding := slot.2
  declarationIndex := declaration.index
  usedInBody := isUsedIn context.functions name
  wildcards := context.mentioned expressions
  detail

end Context

end ShaderMarkup
