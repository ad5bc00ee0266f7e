import ShaderMarkup.Decorator.Basic
import ShaderMarkup.Entry.Basic
import ShaderMarkup.Pattern.Match
import ShaderMarkup.Report.Fault

/-!
# Finding entry points

The decorators of an entry point are sought each on its own, so a declaration with a missing
bracket in front of them does not hide them.  Only a decorator with an opening bracket behind its
name makes a shader a compute or a fragment shader.
-/

namespace ShaderMarkup

/-- Reads `@`, the name as a whole word, white space and an opening bracket.  The argument is not
read over, so that a decorator inside it is found as well. -/
def entryMark (name : Text) : Reader Unit := do
  Reader.symbol '@'
  Reader.exactly name
  Reader.notBefore isWord
  Reader.blanks
  Reader.symbol '('

/-- The offsets where the word stands as a decorator with an opening bracket, at any depth. -/
def entryMarks (code word : Text) : List Nat :=
  (searchAll (anywhere (entryMark word)) code).map (·.start)

/-- The first decorator at or behind an offset. -/
def callFrom? (code : Text) (offset : Nat) : Option Call :=
  (search (anywhere Decorator.read) (code.drop offset)).map fun call =>
    ⟨call.value, offset + call.start, offset + call.stop⟩

/-- Whether a name is made of word characters, so that it stands for itself in a pattern. -/
def isPlainName (name : Text) : Bool :=
  !name.isEmpty && name.all isWord

/-- The pattern for `@`, a name that is a pattern itself, the edge of a word, white space and an
opening bracket. -/
def entryPattern (name : Text) : Text :=
  '@' :: name ++ "\\b\\s*\\(".toList

/-- The offsets where a name stands as a decorator with an opening bracket, at any depth.  A name
that is no word is a search pattern; an offset is missing where the groups of a match make no
sense. -/
def namedMarks (code name : Text) : Check (List (Option Nat)) :=
  if isPlainName name then .ok ((entryMarks code name).map some)
  else
    match Pattern.ofText (entryPattern name) with
    | .ok pattern =>
        .ok ((pattern.allMatches code).map fun (start, trail) =>
          if trail.isSound then some start else none)
    | .error error => giveUp (.pattern error)

/-- The decorators of a name that an opening bracket follows, at any depth.  A name that is no
identifier can be found where no decorator starts; the next decorator stands for it then. -/
def entryCalls (code name : Text) : Check (List Call) := do
  let marks ← namedMarks code name
  marks.mapM fun mark =>
    match mark.map (callFrom? code) with
    | none => giveUp .groupSpan
    | some none => giveUp .noDecorator
    | some (some call) => .ok call

/-- The first decorator of a name that an opening bracket follows. -/
def entryCall? (code : Text) (name : String) : Option Call :=
  (entryMarks code name.toList).head?.bind (callFrom? code)

/-- The line that a decorator starts on. -/
def callLine (code : Text) (call : Call) : Int :=
  Text.lineAt code call.start

/-- The text of a decorator. -/
def callText (code : Text) (call : Call) : Text :=
  (code.take call.stop).drop call.start

/-- Blames a decorator for the issue that a computation ends with. -/
def blaming {α : Type} (code : Text) (call : Call) (check : Check α) : Check α :=
  check.located (some (callLine code call)) (some (callText code call))

/-- The kind of a shader. -/
def shaderKind (code : Text) : Check ShaderKind :=
  match entryCall? code "compute", entryCall? code "fragment" with
  | some compute, some fragment =>
      .error (.issue {
        error := .computeAndFragment
        line := some (Text.lineAt code (max compute.start fragment.start)) })
  | some _, none => .ok .compute
  | none, some _ => .ok .fragment
  | none, none => .ok .resource

end ShaderMarkup
