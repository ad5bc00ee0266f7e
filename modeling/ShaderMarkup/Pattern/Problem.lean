import ShaderMarkup.Text.Basic
import ShaderMarkup.Text.Digits
import ShaderMarkup.Text.Quoted

/-!
# What is wrong with a search pattern

One constructor per cause, and the wording of each.
-/

namespace ShaderMarkup

/-- The reasons for which a pattern cannot be read. -/
inductive PatternProblem where
  -- groups
  | unbalancedGroup
  | unclosedGroup
  | unclosedComment
  | extension (mark : Text)
  | patternEnds
  | missingName (what : String)
  | unclosedName (terminator : Char)
  | groupName (name : Text)
  | unknownGroup (name : Text)
  | nameTaken (name : Text) (group taken : Nat)
  | groupNumber (number : Nat)
  | groupZero
  | openGroup
  | ownLookBehind
  | thirdBranch
  | unevenLookBehind
  -- flags
  | localeFlag
  | typeFlags
  | flagEnd
  | unknownFlag
  | flagMissing
  | colonMissing
  | typeFlagOff
  | globalFlagOn
  | globalFlagOff
  | flagOnAndOff
  | lateFlags
  -- classes, escapes and repetitions
  | unclosedClass
  | range (least most : Text)
  | escape (written : Text)
  | escapeAtEnd
  | shortEscape (written : Text)
  | octalEscape (written : Text)
  | braceMissing
  | characterName (name : Text)
  | nothingToRepeat
  | repeatedTwice
  | boundsReversed
  | repetitionSize
deriving DecidableEq

/-- The wording of a problem. -/
def PatternProblem.message : PatternProblem → Text
  | .unbalancedGroup => "unbalanced parenthesis".toList
  | .unclosedGroup => "missing ), unterminated subpattern".toList
  | .unclosedComment => "missing ), unterminated comment".toList
  | .extension mark => "unknown extension ?".toList ++ mark
  | .patternEnds => "unexpected end of pattern".toList
  | .missingName what => "missing ".toList ++ what.toList
  | .unclosedName terminator => "missing ".toList ++ [terminator] ++ ", unterminated name".toList
  | .groupName name => "bad character in group name ".toList ++ Text.quoted name
  | .unknownGroup name => "unknown group name ".toList ++ Text.quoted name
  | .nameTaken name group taken =>
      "redefinition of group name ".toList ++ Text.quoted name ++ " as group ".toList
        ++ Text.ofNat group ++ "; was group ".toList ++ Text.ofNat taken
  | .groupNumber number => "invalid group reference ".toList ++ Text.ofNat number
  | .groupZero => "bad group number".toList
  | .openGroup => "cannot refer to an open group".toList
  | .ownLookBehind => "cannot refer to group defined in the same lookbehind subpattern".toList
  | .thirdBranch => "conditional backref with more than two branches".toList
  | .unevenLookBehind => "look-behind requires fixed-width pattern".toList
  | .localeFlag => "bad inline flags: cannot use 'L' flag with a str pattern".toList
  | .typeFlags => "bad inline flags: flags 'a', 'u' and 'L' are incompatible".toList
  | .flagEnd => "missing -, : or )".toList
  | .unknownFlag => "unknown flag".toList
  | .flagMissing => "missing flag".toList
  | .colonMissing => "missing :".toList
  | .typeFlagOff => "bad inline flags: cannot turn off flags 'a', 'u' and 'L'".toList
  | .globalFlagOn => "bad inline flags: cannot turn on global flag".toList
  | .globalFlagOff => "bad inline flags: cannot turn off global flag".toList
  | .flagOnAndOff => "bad inline flags: flag turned on and off".toList
  | .lateFlags => "global flags not at the start of the expression".toList
  | .unclosedClass => "unterminated character set".toList
  | .range least most => "bad character range ".toList ++ least ++ ['-'] ++ most
  | .escape written => "bad escape ".toList ++ written
  | .escapeAtEnd => "bad escape (end of pattern)".toList
  | .shortEscape written => "incomplete escape ".toList ++ written
  | .octalEscape written =>
      "octal escape value ".toList ++ written ++ " outside of range 0-0o377".toList
  | .braceMissing => "missing \x7b".toList
  | .characterName name => "undefined character name ".toList ++ Text.quoted name
  | .nothingToRepeat => "nothing to repeat".toList
  | .repeatedTwice => "multiple repeat".toList
  | .boundsReversed => "min repeat greater than max repeat".toList
  | .repetitionSize => "the repetition number is too large".toList

/-- Whether a problem concerns the pattern as a whole and no place in it. -/
def PatternProblem.isPlaceless : PatternProblem → Bool
  | .unevenLookBehind | .repetitionSize => true
  | _ => false

/-- A problem of a pattern and the offset that it is found at. -/
structure PatternError where
  pattern : Text
  problem : PatternProblem
  offset : Nat
deriving DecidableEq

/-- The wording of an error: the problem and its offset and, in a pattern of several lines, its line
and column. -/
def PatternError.message (error : PatternError) : Text :=
  let read := error.pattern.take error.offset
  let line := read.count '\n' + 1
  let column := (read.reverse.takeWhile (· != '\n')).length + 1
  if error.problem.isPlaceless then error.problem.message
  else
    error.problem.message ++ " at position ".toList ++ Text.ofNat error.offset
      ++ if error.pattern.contains '\n' then
          " (line ".toList ++ Text.ofNat line ++ ", column ".toList ++ Text.ofNat column ++ [')']
        else []

/-- Reads a part of a pattern.  A problem comes with the number of characters that stand behind the
place where it is found. -/
abbrev PatternRead (α : Type) : Type :=
  Except (PatternProblem × Nat) α

end ShaderMarkup
