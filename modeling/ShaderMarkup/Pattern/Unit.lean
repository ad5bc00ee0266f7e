import ShaderMarkup.Pattern.Place
import ShaderMarkup.Text.Lowercase

/-!
# Units of search patterns

A unit describes one character: a given one, any but a given one, any at all, or a member of a
class.  An anchor describes a place.  Which characters count as the same, what is a word and what is
a line is a matter of the flags.
-/

namespace ShaderMarkup

/-! ## Flags -/

/-- What the letters of a pattern can change about its meaning. -/
structure PatternFlags where
  ignoreCase : Bool := false
  multiline : Bool := false
  anyLine : Bool := false
  verbose : Bool := false
  ascii : Bool := false
deriving DecidableEq

namespace PatternFlags

/-- The letters of the flags. -/
def letters : Text :=
  "iLmsxatu".toList

/-- The letters of the flags that choose the characters a pattern is about. -/
def typeLetters : Text :=
  "aLu".toList

/-- The flags after some have been turned on and others off. -/
def change (flags : PatternFlags) (on off : Text) : PatternFlags :=
  let turned (letter : Char) (now : Bool) : Bool :=
    (now || on.contains letter) && !off.contains letter
  { ignoreCase := turned 'i' flags.ignoreCase
    multiline := turned 'm' flags.multiline
    anyLine := turned 's' flags.anyLine
    verbose := turned 'x' flags.verbose
    ascii := (flags.ascii && !on.contains 'u') || on.contains 'a' }

/-- Decimal digits. -/
def isDigit (flags : PatternFlags) (c : Char) : Bool :=
  if flags.ascii then c.isDigit else isDecimal c

/-- White space. -/
def isSpace (flags : PatternFlags) (c : Char) : Bool :=
  if flags.ascii then c == ' ' || (decide (9 ≤ c.toNat) && decide (c.toNat ≤ 13)) else isBlank c

/-- Word characters. -/
def isWordPart (flags : PatternFlags) (c : Char) : Bool :=
  if flags.ascii then c == '_' || c.isAlphanum else isWord c

/-- The code points that count as the same as a character. -/
def variants (flags : PatternFlags) (c : Char) : List Nat :=
  if !flags.ignoreCase then [c.toNat]
  else if flags.ascii then asciiCaseVariants c.toNat
  else caseVariants c.toNat

/-- Whether case is ignored and some letter of a range has one. -/
def folds (flags : PatternFlags) (first last : Nat) : Bool :=
  flags.ignoreCase && if flags.ascii then hasAsciiCased first last else hasCased first last

/-- Whether two characters are the same in the text of a group and behind it. -/
def sameCaptured (flags : PatternFlags) (a b : Char) : Bool :=
  if !flags.ignoreCase then a == b
  else if flags.ascii then a.toLower == b.toLower
  else lowerPoint a.toNat == lowerPoint b.toNat

end PatternFlags

/-! ## Classes -/

/-- A member of a class: a character, a range of characters, or a class that a letter names. -/
inductive ClassMember where
  | point (code : Nat)
  | range (first last : Nat)
  | letter (name : Char)
deriving DecidableEq

/-- Whether a letter names a class of characters. -/
def isClassLetter (letter : Char) : Bool :=
  "dDsSwW".toList.contains letter

/-- The class that a letter names. -/
def PatternFlags.classOf (flags : PatternFlags) (letter c : Char) : Bool :=
  match letter with
  | 'd' => flags.isDigit c
  | 'D' => !flags.isDigit c
  | 's' => flags.isSpace c
  | 'S' => !flags.isSpace c
  | 'w' => flags.isWordPart c
  | _ => !flags.isWordPart c

namespace ClassMember

/-- The characters of a member. -/
def accepts (flags : PatternFlags) (c : Char) : ClassMember → Bool
  | .point code => (flags.variants c).contains code
  | .range first last =>
      (flags.variants c).any fun code => decide (first ≤ code) && decide (code ≤ last)
  | .letter name => flags.classOf name c

/-- Whether the case of letters has to be looked at.  Characters beyond the first plane are always
looked at. -/
def folds (flags : PatternFlags) : ClassMember → Bool
  | .point code => flags.folds code code || (flags.ignoreCase && decide (0xFFFF < code))
  | .range first last => flags.folds first last || (flags.ignoreCase && decide (0xFFFF < last))
  | .letter _ => false

end ClassMember

/-! ## Units -/

/-- A description of one character. -/
inductive CharUnit where
  | point (code : Nat)
  | other (code : Nat)
  | any
  | members (negated : Bool) (list : List ClassMember)
deriving DecidableEq

namespace CharUnit

/-- Whether a unit describes a character. -/
def accepts (flags : PatternFlags) (c : Char) : CharUnit → Bool
  | .point code => (flags.variants c).contains code
  | .other code => !(flags.variants c).contains code
  | .any => flags.anyLine || c != '\n'
  | .members negated list => (list.any fun member => member.accepts flags c) != negated

/-- The only code point that the unit describes, unless case is ignored. -/
def literal? (flags : PatternFlags) : CharUnit → Option Nat
  | .point code => if flags.folds code code then none else some code
  | _ => none

/-- Whether a choice looks at the next character before it tries an alternative that starts with the
unit. -/
def isLookedUp (flags : PatternFlags) : CharUnit → Bool
  | .point code => !flags.folds code code
  | .members _ list => !list.any fun member => member.folds flags
  | _ => false

/-- Whether a run of the unit is passed over character by character, so that an attempt comes as far
as the run does.  Other runs are measured at once. -/
def isStepped (flags : PatternFlags) : CharUnit → Bool
  | .point code | .other code => flags.folds code code && !flags.ascii && sharesCapital code
  | .members _ list => list.any fun member => member.folds flags
  | .any => false

/-- The number of characters, of so many at most, that the unit describes one after the other. -/
def count (flags : PatternFlags) (unit : CharUnit) (most : Option Nat) (text : Text) : Nat :=
  let run := text.takeWhile fun c => unit.accepts flags c
  most.elim run.length (min run.length)

end CharUnit

/-! ## Anchors -/

/-- A description of a place. -/
inductive Anchor where
  | lineStart
  | lineEnd
  | textStart
  | textEnd
  | wordEdge
  | noWordEdge
deriving DecidableEq

/-- Whether an anchor describes a place. -/
def Anchor.holds (flags : PatternFlags) (place : Place) : Anchor → Bool
  | .lineStart => if flags.multiline then place.isLineStart else place.isStart
  | .lineEnd => if flags.multiline then place.isLineEnd else place.isLastLineEnd
  | .textStart => place.isStart
  | .textEnd => place.isEnd
  | .wordEdge => place.isEdge flags.isWordPart
  | .noWordEdge => !place.isEdge flags.isWordPart

end ShaderMarkup
