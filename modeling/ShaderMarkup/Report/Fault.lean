import ShaderMarkup.Pattern.Syntax
import ShaderMarkup.Report.Issue

/-!
# Faults

A computation over a shader ends early for one of two reasons.  An issue is something to report
about the text, with the place it concerns once that is known.  An abort is a request that cannot
be answered at all; it is not a report about one declaration, and it ends the whole computation.
-/

namespace ShaderMarkup

/-- An error with the line and the source text it concerns, as far as they are known. -/
structure Located (ε : Type) where
  error : ε
  line : Option Int := none
  source : Option Text := none

namespace Located

variable {ε : Type}

/-- Attaches a place to an error that has no line yet.  A missing or empty source leaves the one
that is there. -/
def locate (report : Located ε) (line : Option Int) (source : Option Text) : Located ε :=
  match report.line with
  | some _ => report
  | none =>
      match source with
      | none | some [] => { report with line }
      | some written => { report with line, source := some written }

end Located

/-- A message, followed by the line it concerns if that is known. -/
def withLine (message : Text) : Option Int → Text
  | none => message
  | some line => message ++ " at line ".toList ++ Text.ofInt line

/-- The causes for which a computation cannot be completed. -/
inductive Abort where
  /-- A wildcard was given no component or more than four. -/
  | wildcardWidth (given : Nat)
  /-- A slot is written with digits that are not decimal digits. -/
  | slotDigits (written : Text)
  /-- An integer is written with more digits than are read. -/
  | integerLength (digits : Nat)
  /-- An integer literal of an expression has more digits than are read. -/
  | literalLength
  /-- An integer is too large for a double. -/
  | integerRange
  /-- The marker of wildcards holds a line break. -/
  | markerLines
  /-- The marker of wildcards holds a null character. -/
  | markerNull
  /-- A sampler has no parameter of that name and sort. -/
  | noParameter (name : Text)
  /-- A search pattern cannot be read. -/
  | pattern (error : PatternError)
  /-- A group of a search pattern ends in front of its start. -/
  | groupSpan
  /-- No decorator stands at or behind a place where one was expected. -/
  | noDecorator
  /-- A texture has no size value that could be repeated. -/
  | noSizeValue
  /-- The struct types refer to each other in a circle. -/
  | circularType
  /-- The slot decorators of a piece hid its variable. -/
  | variableLost
  /-- The slot decorators of a piece hid its variable, and another one has no slot. -/
  | slotUnknown (name : Text)
  /-- There is no compute entry point to read. -/
  | noComputeEntry
  /-- There is no fragment entry point to read. -/
  | noFragmentEntry
deriving DecidableEq

/-- Why a computation has no result. -/
inductive Fault where
  | issue (report : Located Issue)
  | abort (cause : Abort)

namespace Fault

/-- An issue whose place is not known yet. -/
def ofIssue (issue : Issue) : Fault :=
  .issue { error := issue }

/-- Attaches a place to an issue; an abort has none. -/
def locate (fault : Fault) (line : Option Int) (source : Option Text) : Fault :=
  match fault with
  | .issue report => .issue (report.locate line source)
  | .abort cause => .abort cause

end Fault

/-- A computation that may end in a fault. -/
abbrev Check := Except Fault

/-- Ends a computation with an issue. -/
def refuse {α : Type} (issue : Issue) : Check α :=
  .error (Fault.ofIssue issue)

/-- Ends a computation with an abort. -/
def giveUp {α : Type} (cause : Abort) : Check α :=
  .error (.abort cause)

/-- Attaches a place to the fault of a computation. -/
def Check.located {α : Type} (line : Option Int) (source : Option Text) (check : Check α) :
    Check α :=
  match check with
  | .ok value => .ok value
  | .error fault => .error (fault.locate line source)

end ShaderMarkup
