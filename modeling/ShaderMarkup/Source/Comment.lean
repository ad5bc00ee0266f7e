import ShaderMarkup.Text.Segment

/-!
# Comments

A comment runs from `//` to the end of the line, or from `/*` to the next `*/`.  A `/*` that is
never closed starts no comment.  Comments are blanked out, not cut out, so that every offset and
every line number stays what it was.
-/

namespace ShaderMarkup

/-- What follows the first `*/`. -/
def afterBlockEnd : Text → Option Text
  | [] => none
  | c :: rest =>
      match c, rest with
      | '*', '/' :: remaining => some remaining
      | _, _ => afterBlockEnd rest

/-- Reads a comment. -/
def comment : Reader Unit
  | '/' :: '*' :: rest => (afterBlockEnd rest).map fun remaining => ((), remaining)
  | '/' :: '/' :: rest => some ((), rest.dropWhile (· != '\n'))
  | _ => none

/-- A space in place of every character but a line end. -/
def blankOut (c : Char) : Char :=
  if c = '\n' then '\n' else ' '

/-- The text with every comment blanked out. -/
def stripComments (code : Text) : Text :=
  (segments (anywhere comment) code).flatMap fun segment =>
    match segment with
    | .plain c => [c]
    | .hit _ written => written.map blankOut

end ShaderMarkup
