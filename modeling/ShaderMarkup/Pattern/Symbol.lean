import ShaderMarkup.Pattern.Basic
import ShaderMarkup.Pattern.Problem
import ShaderMarkup.Text.CharacterName

/-!
# Symbols of search patterns

A symbol stands for one character, a class of characters, a kind of place or the text of a group.
Letters behind a `\` name classes, places and control characters; a class in brackets lists its
members.
-/

namespace ShaderMarkup

/-! ## Symbols -/

/-- What a single character or an escape stands for. -/
inductive Symbol where
  | member (member : ClassMember)
  | anchor (anchor : Anchor)
  | reference (number : Nat)

/-- The symbol of a code point. -/
def Symbol.point (code : Nat) : Symbol :=
  .member (.point code)

/-- The places that a letter stands for. -/
def anchorLetter? : Char → Option Anchor
  | 'A' => some .textStart
  | 'Z' => some .textEnd
  | 'b' => some .wordEdge
  | 'B' => some .noWordEdge
  | _ => none

/-- The control character that a letter stands for. -/
def controlLetter? : Char → Option Char
  | 'a' => some '\x07'
  | 'f' => some '\x0c'
  | 'n' => some '\n'
  | 'r' => some '\r'
  | 't' => some '\t'
  | 'v' => some '\x0b'
  | _ => none

/-! ## Numbers of characters -/

/-- Digits in base sixteen. -/
def isHexDigit (c : Char) : Bool :=
  c.isDigit || (decide ('a' ≤ c) && decide (c ≤ 'f')) || (decide ('A' ≤ c) && decide (c ≤ 'F'))

/-- Digits in base eight. -/
def isOctalDigit (c : Char) : Bool :=
  decide ('0' ≤ c) && decide (c ≤ '7')

/-- The value of a digit in base sixteen. -/
def hexValue (c : Char) : Nat :=
  if c.isDigit then c.toNat - '0'.toNat
  else if c.isUpper then c.toNat - 'A'.toNat + 10
  else c.toNat - 'a'.toNat + 10

/-- The number that digits of a base up to sixteen stand for. -/
def digitsValue (base : Nat) (digits : Text) : Nat :=
  digits.foldl (fun value c => base * value + hexValue c) 0

/-! ## Escapes -/

/-- The first character of a text, with the next one if it is a `\`. -/
def firstUnit : Text → Text
  | '\\' :: c :: _ => ['\\', c]
  | text => text.take 1

/-- Reads up to a terminator and past it; the name in front of it must not be empty. -/
def readName (terminator : Char) (what : String) : Text → Text → PatternRead (Text × Text)
  | [], [] => .error (.missingName what, 0)
  | name, [] => .error (.unclosedName terminator, name.length)
  | name, '\\' :: c :: rest => readName terminator what (name ++ ['\\', c]) rest
  | name, c :: rest =>
      if c = terminator then
        if name.isEmpty then .error (.missingName what, rest.length + 1) else .ok (name, rest)
      else readName terminator what (name ++ [c]) rest

/-- Reads the character with the given number of hexadecimal digits, behind `\` and a letter. -/
def readHex (letter : Char) (width : Nat) (rest : Text) : PatternRead (Symbol × Text) :=
  let digits := (rest.take width).takeWhile isHexDigit
  let value := digitsValue 16 digits
  if digits.length < width then .error (.shortEscape ('\\' :: letter :: digits), rest.length + 2)
  else if 0x10FFFF < value then .error (.escape ('\\' :: letter :: digits), rest.length + 2)
  else .ok (.point value, rest.drop width)

/-- Reads the character of a name in braces, behind `\N`. -/
def readNamed (rest : Text) : PatternRead (Symbol × Text) :=
  match rest with
  | '\x7b' :: inside => do
      let (name, behind) ← readName '\x7d' "character name" [] inside
      match namedPoint? name with
      | some point => pure (.point point, behind)
      | none => .error (.characterName name, behind.length + name.length + 4)
  | _ => .error (.braceMissing, rest.length)

/-- The character of a code in base eight, behind `\`. -/
def octalSymbol (digits behind : Text) : PatternRead (Symbol × Text) :=
  if 255 < digitsValue 8 digits then
    .error (.octalEscape ('\\' :: digits), behind.length + digits.length + 1)
  else .ok (.point (digitsValue 8 digits), behind)

/-- Reads digits behind a `\` outside classes: a code in base eight or the number of a group. -/
def readNumbered (first : Char) (rest : Text) : PatternRead (Symbol × Text) :=
  if first = '0' then
    let digits := (rest.take 2).takeWhile isOctalDigit
    octalSymbol (first :: digits) (rest.drop digits.length)
  else
    let octal := first :: rest.take 2
    if octal.length = 3 ∧ octal.all isOctalDigit then octalSymbol octal (rest.drop 2)
    else
      let digits := first :: (rest.take 1).takeWhile Char.isDigit
      .ok (.reference (digitsValue 10 digits), rest.drop (digits.length - 1))

/-- Reads what a letter or another character behind a `\` stands for, if it is no class, place,
control character or number. -/
def readCoded (c : Char) (rest : Text) : PatternRead (Symbol × Text) :=
  if c = 'x' then readHex 'x' 2 rest
  else if c = 'u' then readHex 'u' 4 rest
  else if c = 'U' then readHex 'U' 8 rest
  else if c = 'N' then readNamed rest
  else if c.isAlphanum then .error (.escape ['\\', c], rest.length + 2)
  else .ok (.point c.toNat, rest)

/-- Reads what stands behind a `\` outside classes. -/
def readEscape (c : Char) (rest : Text) : PatternRead (Symbol × Text) :=
  match anchorLetter? c, controlLetter? c with
  | some anchor, _ => .ok (.anchor anchor, rest)
  | _, some control => .ok (.point control.toNat, rest)
  | _, _ =>
      if isClassLetter c then .ok (.member (.letter c), rest)
      else if c.isDigit then readNumbered c rest
      else readCoded c rest

/-- Reads what stands behind a `\` in a class. -/
def readClassEscape (c : Char) (rest : Text) : PatternRead (Symbol × Text) :=
  match controlLetter? c with
  | some control => .ok (.point control.toNat, rest)
  | none =>
      if isClassLetter c then .ok (.member (.letter c), rest)
      else if c = 'b' then .ok (.point 8, rest)
      else if isOctalDigit c then
        let digits := c :: (rest.take 2).takeWhile isOctalDigit
        octalSymbol digits (rest.drop (digits.length - 1))
      else readCoded c rest

/-! ## Classes -/

/-- Reads one member of a class, if the pattern goes on. -/
def readMember : Text → Option (PatternRead (ClassMember × Text))
  | [] => none
  | '\\' :: c :: rest =>
      some do
        match ← readClassEscape c rest with
        | (.member member, behind) => pure (member, behind)
        | (_, behind) => .error (.escape ['\\', c], behind.length + 2)
  | c :: rest => some (.ok (.point c.toNat, rest))

/-- Reads the members of a class up to its closing bracket.  The class starts in front of the last
`here` characters.  A bracket right at the start is a member.  The members come last ones first. -/
def readMembers (here : Nat) : Nat → List ClassMember → Text →
    PatternRead (List ClassMember × Text)
  | 0, _, _ => .error (.unclosedClass, here)
  | fuel + 1, members, text =>
      match text, members with
      | ']' :: rest, _ :: _ => .ok (members, rest)
      | _, _ =>
          match readMember text with
          | none => .error (.unclosedClass, here)
          | some (.error problem) => .error problem
          | some (.ok (least, '-' :: rest)) =>
              match rest with
              | ']' :: behind => .ok (.point '-'.toNat :: least :: members, behind)
              | _ =>
                  match readMember rest with
                  | none => .error (.unclosedClass, here)
                  | some (.error problem) => .error problem
                  | some (.ok (most, behind)) =>
                      let (first, last) := (firstUnit text, firstUnit rest)
                      let problem : PatternProblem × Nat :=
                        (.range first last, behind.length + first.length + 1 + last.length)
                      match least, most with
                      | .point a, .point b =>
                          if a ≤ b then readMembers here fuel (.range a b :: members) behind
                          else .error problem
                      | _, _ => .error problem
          | some (.ok (member, rest)) => readMembers here fuel (member :: members) rest

/-- The members of a class, each where it comes first. -/
def distinctMembers (members : List ClassMember) : List ClassMember :=
  members.foldl (fun found member =>
    if found.any fun other => decide (other = member) then found else found ++ [member]) []

/-- The unit of a class.  A class of one character is that character. -/
def classUnit (negated : Bool) (members : List ClassMember) : CharUnit :=
  match distinctMembers members with
  | [.point code] => if negated then .other code else .point code
  | members => .members negated members

/-- Reads a class behind its opening bracket. -/
def readClass (rest : Text) : PatternRead (CharUnit × Text) := do
  let negated := rest.head? = some '^'
  let inside := if negated then rest.drop 1 else rest
  let (members, behind) ← readMembers (rest.length + 1) (inside.length + 1) [] inside
  pure (classUnit negated members.reverse, behind)

end ShaderMarkup
