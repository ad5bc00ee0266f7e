import ShaderMarkup.Decorator.Basic

/-!
# Removing decorators

Taking a decorator out can bring together what stood on its two sides, and the two may form a new
decorator.  Removal is therefore repeated until none of the chosen names is left.
-/

namespace ShaderMarkup

/-- The text without the decorators whose names are chosen, those inside arguments aside. -/
def removeOnce (chosen : Text → Bool) (text : Text) : Text :=
  (decoratorSegments text).flatMap fun segment =>
    match segment with
    | .plain c => [c]
    | .hit decorator written => if chosen decorator.name then [] else written

/-- Removes at most `rounds` times. -/
def removeWithin (chosen : Text → Bool) : Nat → Text → Text
  | 0, text => text
  | rounds + 1, text =>
      if (calls text).any fun call => chosen call.value.name then
        removeWithin chosen rounds (removeOnce chosen text)
      else text

/-- The text without the decorators whose names are chosen.  Every round shortens the text, so it
is never longer than the rounds that are left. -/
def removeDecorators (chosen : Text → Bool) (text : Text) : Text :=
  removeWithin chosen text.length text

end ShaderMarkup
