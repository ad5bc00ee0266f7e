import ShaderMarkup.Pattern.Symbol
import ShaderMarkup.Text.Identifier

/-!
# Reading search patterns

Patterns are written with `|` for choices, `( )` for groups, `[ ]` for classes of characters, `.`
for any character of a line, `*`, `+`, `?` and `{m,n}` for repetitions, and `\` in front of a
character that stands for itself or, if it is a letter, for a class, a place or a control character.
A `?` behind an opening parenthesis announces a special group.

A pattern is read from left to right.  The groups that are open are kept as levels; each holds the
alternatives that are complete and the items of the current one.  Every atom of a pattern comes with
the least and the greatest width of what it matches, since looking back needs a fixed width.  What
all alternatives start with is taken out of the choice, and a choice between single characters is a
class.
-/

namespace ShaderMarkup

/-! ## Atoms and their widths -/

/-- The least and, if there is one, the greatest width of what a pattern matches. -/
structure PatternWidth where
  least : Nat
  most : Option Nat
deriving DecidableEq

namespace PatternWidth

/-- The width of the empty text. -/
def zero : PatternWidth :=
  ⟨0, some 0⟩

/-- The sum of two bounds. -/
def addBounds : Option Nat → Option Nat → Option Nat
  | some a, some b => some (a + b)
  | _, _ => none

/-- The greater of two bounds. -/
def maxBounds : Option Nat → Option Nat → Option Nat
  | some a, some b => some (max a b)
  | _, _ => none

/-- The width of one pattern behind another. -/
def add (a b : PatternWidth) : PatternWidth :=
  ⟨a.least + b.least, addBounds a.most b.most⟩

/-- The width of one pattern or another. -/
def either (a b : PatternWidth) : PatternWidth :=
  ⟨min a.least b.least, maxBounds a.most b.most⟩

/-- The width of a repetition. -/
def times (width : PatternWidth) (least : Nat) : Option Nat → PatternWidth
  | none => ⟨width.least * least, if width.most = some 0 then some 0 else none⟩
  | some 0 => ⟨width.least * least, some 0⟩
  | some most => ⟨width.least * least, width.most.map (· * most)⟩

end PatternWidth

/-- What can be done with an atom.  Leaves and places can be compared; places and repetitions cannot
be repeated. -/
inductive AtomRole where
  | leaf
  | place
  | loop
  | block
deriving DecidableEq

/-- A part of a sequence, with the width of what it matches. -/
structure PatternAtom where
  pattern : Pattern
  width : PatternWidth := .zero
  role : AtomRole := .block
deriving DecidableEq

namespace PatternAtom

/-- The atom for one character. -/
def one (unit : CharUnit) (flags : PatternFlags) : PatternAtom :=
  ⟨.one unit flags, ⟨1, some 1⟩, .leaf⟩

/-- The atom for a place. -/
def anchor (anchor : Anchor) (flags : PatternFlags) : PatternAtom :=
  { pattern := .anchor anchor flags, role := .place }

/-- Whether equal atoms are the same. -/
def isExact (atom : PatternAtom) : Bool :=
  decide (atom.role = .leaf ∨ atom.role = .place)

/-- The members of the class that the atom is. -/
def members? (atom : PatternAtom) : Option (List ClassMember) :=
  match atom.pattern with
  | .one (.point code) _ => some [.point code]
  | .one (.members false members) _ => some members
  | _ => none

end PatternAtom

/-- The pattern of a sequence. -/
def sequencePattern (atoms : List PatternAtom) : Pattern :=
  .ofList (atoms.map (·.pattern))

/-- The width of a sequence. -/
def sequenceWidth (atoms : List PatternAtom) : PatternWidth :=
  atoms.foldr (fun atom width => atom.width.add width) .zero

/-- An item of a sequence: an atom, or a group that makes no difference but to a repetition. -/
inductive PatternItem where
  | atom (atom : PatternAtom)
  | group (atoms : List PatternAtom)

/-- The atoms of an item. -/
def PatternItem.atoms : PatternItem → List PatternAtom
  | .atom single => [single]
  | .group several => several

/-! ## Choices -/

/-- Takes out what an alternative and all others start with. -/
def takeOutShared : List PatternAtom → List (List PatternAtom) →
    List PatternAtom × List (List PatternAtom)
  | [], others => ([], [] :: others)
  | atom :: rest, others =>
      if atom.isExact && others.all fun other => decide (other.head? = some atom) then
        let (shared, alternatives) := takeOutShared rest (others.map (·.drop 1))
        (atom :: shared, alternatives)
      else ([], (atom :: rest) :: others)

/-- The class that a choice is, if every alternative is a single character or a class. -/
def choiceMembers? (alternatives : List (List PatternAtom)) : Option (List ClassMember) :=
  (alternatives.mapM fun (alternative : List PatternAtom) =>
    match alternative with
    | [atom] => atom.members?
    | _ => none).map List.flatten

/-- The atom of a choice. -/
def choiceAtom (flags : PatternFlags) (alternatives : List (List PatternAtom)) : PatternAtom :=
  match choiceMembers? alternatives, alternatives.map sequenceWidth with
  | some members, _ => .one (.members false (distinctMembers members)) flags
  | none, [] => { pattern := .never }
  | none, width :: widths =>
      { pattern := .choice (alternatives.map sequencePattern)
        width := widths.foldl PatternWidth.either width }

/-- The atoms of a choice between alternatives. -/
def choiceAtoms (flags : PatternFlags) : List (List PatternAtom) → List PatternAtom
  | [] => []
  | [alternative] => alternative
  | alternative :: others =>
      let (shared, alternatives) := takeOutShared alternative others
      shared ++ [choiceAtom flags alternatives]

/-! ## What has been read -/

/-- What is known about the groups of a pattern while it is read. -/
structure PatternGroups where
  /-- The number of the next group. -/
  next : Nat := 1
  /-- The groups that are complete, with their widths. -/
  closed : List (Nat × PatternWidth) := []
  /-- The names of groups. -/
  names : List (Text × Nat) := []
  /-- The numbers of groups that conditions ask for, with the characters behind them. -/
  conditions : List (Nat × Nat) := []
  /-- The number of the first group that an open look-behind could hold. -/
  lookBehind : Option Nat := none
  /-- Whether some look-behind has no fixed width. -/
  uneven : Bool := false

namespace PatternGroups

/-- The width of a group that is complete. -/
def width? (groups : PatternGroups) (number : Nat) : Option PatternWidth :=
  (groups.closed.find? fun entry => entry.1 = number).map (·.2)

/-- The number of a name. -/
def number? (groups : PatternGroups) (name : Text) : Option Nat :=
  (groups.names.find? fun entry => entry.1 = name).map (·.2)

/-- Checks that a group can be asked for from inside a look-behind. -/
def checkLookBehind (groups : PatternGroups) (number behind : Nat) : PatternRead Unit :=
  match groups.lookBehind with
  | none => .ok ()
  | some first =>
      if (groups.width? number).isNone then .error (.openGroup, behind)
      else if first ≤ number then .error (.ownLookBehind, behind)
      else .ok ()

/-- The atom for the text of a group.  The reference has the given width and so many characters
behind it. -/
def reference (groups : PatternGroups) (flags : PatternFlags) (number written behind : Nat) :
    PatternRead PatternAtom :=
  match groups.width? number with
  | none => .error (.openGroup, behind + written)
  | some width => do
      groups.checkLookBehind number behind
      pure ⟨.reference number flags, width, .leaf⟩

/-- The atom for a symbol, where so many characters were written for it and stand behind it. -/
def atom (groups : PatternGroups) (flags : PatternFlags) (written behind : Nat) :
    Symbol → PatternRead PatternAtom
  | .anchor anchor => .ok (.anchor anchor flags)
  | .reference number =>
      if number < groups.next then groups.reference flags number written behind
      else .error (.groupNumber number, behind + written - 1)
  | .member (.point code) => .ok (.one (.point code) flags)
  | .member member => .ok (.one (.members false [member]) flags)

end PatternGroups

/-! ## Repetitions -/

/-- A repetition must be written with numbers below this one. -/
def maxRepetition : Nat := 4294967295

/-- Reads bounds behind their opening brace.  Where they are not well formed the brace stands for
itself. -/
def readBounds (rest : Text) : Option (Bounds × Text) :=
  if rest.head? = some '\x7d' then none
  else
    let least := rest.takeWhile Char.isDigit
    let behind := rest.dropWhile Char.isDigit
    let (most, behind) :=
      if behind.head? = some ',' then
        ((behind.drop 1).takeWhile Char.isDigit, (behind.drop 1).dropWhile Char.isDigit)
      else (least, behind)
    match behind with
    | '\x7d' :: after =>
        some (⟨digitsValue 10 least, if most.isEmpty then none else some (digitsValue 10 most)⟩,
          after)
    | _ => none

/-- Reads a repetition, if one stands here. -/
def readRepetition : Text → Option (Bounds × Text)
  | '*' :: rest => some (⟨0, none⟩, rest)
  | '+' :: rest => some (⟨1, none⟩, rest)
  | '?' :: rest => some (⟨0, some 1⟩, rest)
  | '\x7b' :: rest => readBounds rest
  | _ => none

/-- Reads the mark for the manner of a repetition, if one stands here: `?` for as few times as
possible, `+` for as many as possible without going back. -/
def readManner : Text → Manner × Text
  | '?' :: rest => (.lazy, rest)
  | '+' :: rest => (.possessive, rest)
  | rest => (.greedy, rest)

/-- The repetition of atoms. -/
def Bounds.loop (bounds : Bounds) (manner : Manner) (atoms : List PatternAtom) : PatternAtom :=
  { pattern := (sequencePattern atoms).times bounds manner
    width := (sequenceWidth atoms).times bounds.least bounds.most
    role := .loop }

/-! ## Groups -/

/-- What becomes of the pattern of a group. -/
inductive GroupKind where
  | plain
  | scoped
  | committed
  | captured (number : Nat)
  | ahead
  | notAhead
  | behind (outermost : Bool)
  | notBehind (outermost : Bool)
  | given (number : Nat)

/-- An open group: how many characters stand behind its start, what becomes of it, its flags, the
complete alternatives and the items of the current one, the last ones first. -/
structure PatternLevel where
  start : Nat
  kind : GroupKind
  flags : PatternFlags
  alternatives : List (List PatternAtom) := []
  items : List PatternItem := []

namespace PatternLevel

/-- The atoms of the current alternative. -/
def sequence (level : PatternLevel) : List PatternAtom :=
  level.items.reverse.flatMap PatternItem.atoms

/-- The atoms of all alternatives. -/
def choice (level : PatternLevel) : List PatternAtom :=
  choiceAtoms level.flags (level.sequence :: level.alternatives).reverse

/-- Adds an item to the current alternative. -/
def push (level : PatternLevel) (item : PatternItem) : PatternLevel :=
  { level with items := item :: level.items }

/-- Completes the current alternative, with so many characters from its bar on.  A condition has two
alternatives at most. -/
def next (level : PatternLevel) (here : Nat) : PatternRead PatternLevel :=
  match level.kind, level.alternatives with
  | .given _, _ :: _ => .error (.thirdBranch, here)
  | _, _ => .ok { level with alternatives := level.sequence :: level.alternatives, items := [] }

/-- Repeats the last item; `here` is the number of characters behind the start of the repetition. -/
def repeatLast (level : PatternLevel) (here : Nat) (bounds : Bounds) (rest : Text) :
    PatternRead (PatternLevel × Text) :=
  if maxRepetition ≤ bounds.least ∨ bounds.most.any (maxRepetition ≤ ·) then
    .error (.repetitionSize, here)
  else if bounds.most.any (· < bounds.least) then .error (.boundsReversed, here - 1)
  else
    let (manner, behind) := readManner rest
    let repeated (item : PatternItem) (others : List PatternItem) : PatternLevel :=
      { level with items := .atom (bounds.loop manner item.atoms) :: others }
    match level.items with
    | [] => .error (.nothingToRepeat, here)
    | .group atoms :: others => .ok (repeated (.group atoms) others, behind)
    | .atom atom :: others =>
        match atom.role with
        | .place => .error (.nothingToRepeat, here)
        | .loop => .error (.repeatedTwice, here)
        | _ => .ok (repeated (.atom atom) others, behind)

/-- The atom of a condition: what it has before its bar, and what behind. -/
def condition (level : PatternLevel) (number : Nat) : PatternAtom :=
  let last := level.sequence
  match level.alternatives with
  | [] =>
      { pattern := .given number (sequencePattern last) .nothing
        width := ⟨0, (sequenceWidth last).most⟩ }
  | present :: _ =>
      { pattern := .given number (sequencePattern present) (sequencePattern last)
        width := (sequenceWidth present).either (sequenceWidth last) }

/-- A look-behind, with the width that it looks back. -/
def lookBack (level : PatternLevel) (groups : PatternGroups) (outermost : Bool)
    (look : Nat → Pattern → Pattern) : PatternItem × PatternGroups :=
  let width := sequenceWidth level.choice
  (.atom { pattern := look width.least (sequencePattern level.choice) },
    { groups with
      lookBehind := if outermost then none else groups.lookBehind
      uneven := groups.uneven || width.most != some width.least })

/-- The item of a group that is complete. -/
def close (level : PatternLevel) (groups : PatternGroups) : PatternItem × PatternGroups :=
  let atoms := level.choice
  let pattern := sequencePattern atoms
  let width := sequenceWidth atoms
  match level.kind with
  | .plain => (.group atoms, groups)
  | .scoped => (.atom { pattern := .scoped pattern, width }, groups)
  | .committed => (.atom { pattern := .committed pattern, width }, groups)
  | .captured number =>
      (.atom { pattern := .captured number pattern, width },
        { groups with closed := (number, width) :: groups.closed })
  | .ahead => (.atom { pattern := .ahead pattern }, groups)
  | .notAhead => (.atom { pattern := .notAhead pattern }, groups)
  | .behind outermost => level.lookBack groups outermost .behind
  | .notBehind outermost => level.lookBack groups outermost .notBehind
  | .given number => (.atom (level.condition number), groups)

end PatternLevel

/-! ## Flags in a pattern -/

/-- Why a character cannot stand among flags. -/
def flagProblem (c : Char) (missing : PatternProblem) : PatternProblem :=
  if isLetter c then .unknownFlag else missing

/-- Reads the flags that are turned on, up to one of `)`, `-` and `:`. -/
def readFlagsOn : Text → Text → PatternRead (Text × Char × Text)
  | _, [] => .error (.flagEnd, 0)
  | on, c :: rest =>
      if c = 'L' then .error (.localeFlag, rest.length)
      else if c ∈ PatternFlags.letters then
        if c ∈ PatternFlags.typeLetters ∧ (on.any fun other =>
            other != c && PatternFlags.typeLetters.contains other) then
          .error (.typeFlags, rest.length)
        else readFlagsOn (c :: on) rest
      else if c = ')' ∨ c = '-' ∨ c = ':' then .ok (on, c, rest)
      else .error (flagProblem c .flagEnd, rest.length + 1)

/-- Reads the flags that are turned off, up to a `:`. -/
def readFlagsOff : Text → Text → PatternRead (Text × Text)
  | off, [] => .error (if off.isEmpty then .flagMissing else .colonMissing, 0)
  | off, c :: rest =>
      if c ∈ PatternFlags.typeLetters then .error (.typeFlagOff, rest.length)
      else if c ∈ PatternFlags.letters then readFlagsOff (c :: off) rest
      else if c = ':' ∧ !off.isEmpty then .ok (off, rest)
      else
        .error (flagProblem c (if off.isEmpty then .flagMissing else .colonMissing),
          rest.length + 1)

/-- The flags of a group or of the rest of the pattern. -/
inductive FlagChange where
  | group (on off : Text)
  | pattern (on : Text)

/-- Reads the flags behind `(?`. -/
def readFlags (text : Text) : PatternRead (FlagChange × Text) := do
  let (on, stop, rest) ←
    match text with
    | '-' :: rest => pure ([], '-', rest)
    | _ => readFlagsOn [] text
  if stop = ')' then pure (.pattern on, rest)
  else if 't' ∈ on then .error (.globalFlagOn, rest.length + 1)
  else
    let (off, inside) ← if stop = '-' then readFlagsOff [] rest else pure ([], rest)
    if 't' ∈ off then .error (.globalFlagOff, inside.length + 1)
    else if on.any off.contains then .error (.flagOnAndOff, inside.length + 1)
    else pure (.group on off, inside)

/-! ## Openings -/

/-- What an opening parenthesis starts: a group, an atom without a group, nothing at all, or a
change of the flags. -/
inductive Opening where
  | level (level : PatternLevel) (groups : PatternGroups)
  | atom (atom : PatternAtom)
  | comment
  | flags (on : Text)

/-- Passes over a comment, which ends at the first parenthesis that no `\` stands in front of. -/
def skipComment (here : Nat) : Text → PatternRead Text
  | [] => .error (.unclosedComment, here)
  | '\\' :: _ :: rest => skipComment here rest
  | c :: rest => if c = ')' then .ok rest else skipComment here rest

/-- The number that the text of a condition stands for: digits, single underscores between them, and
white space around them. -/
def conditionNumber? (text : Text) : Option Nat :=
  let trimmed := Text.trim text
  let digits := if trimmed.head? = some '+' then trimmed.drop 1 else trimmed
  let parts := digits.splitOn '_'
  if parts.all fun part => !part.isEmpty && part.all isDecimal then
    some (Text.natValue parts.flatten)
  else none

/-- The most groups that a pattern may have. -/
def maxGroups : Nat := 1073741823

/-- Opens a group with a number, and a name if it has one. -/
def openCaptured (start : Nat) (flags : PatternFlags) (groups : PatternGroups) : Opening :=
  .level { start, kind := .captured groups.next, flags } { groups with next := groups.next + 1 }

/-- Opens a group behind `(?P<`. -/
def openNamed (start : Nat) (flags : PatternFlags) (groups : PatternGroups) (text : Text) :
    PatternRead (Opening × Text) := do
  let (name, inside) ← readName '>' "group name" [] text
  let here := inside.length + name.length + 1
  if !isIdentifier name then .error (.groupName name, here)
  else
    match groups.number? name with
    | some taken => .error (.nameTaken name groups.next taken, here)
    | none =>
        pure (openCaptured start flags { groups with names := (name, groups.next) :: groups.names },
          inside)

/-- Reads a reference behind `(?P=`. -/
def openReference (flags : PatternFlags) (groups : PatternGroups) (text : Text) :
    PatternRead (Opening × Text) := do
  let (name, behind) ← readName ')' "group name" [] text
  let here := behind.length + name.length + 1
  if !isIdentifier name then .error (.groupName name, here)
  else
    match groups.number? name with
    | none => .error (.unknownGroup name, here)
    | some number =>
        let atom ← groups.reference flags number (name.length + 1) behind.length
        pure (.atom atom, behind)

/-- Opens a condition behind `(?(`. -/
def openCondition (start : Nat) (flags : PatternFlags) (groups : PatternGroups) (text : Text) :
    PatternRead (Opening × Text) := do
  let (name, inside) ← readName ')' "group name" [] text
  let here := inside.length + name.length + 1
  let (number, groups) ←
    if isIdentifier name then
      match groups.number? name with
      | some number => pure (number, groups)
      | none => .error (.unknownGroup name, here)
    else
      match conditionNumber? name with
      | none => .error (.groupName name, here)
      | some 0 => .error (.groupZero, here)
      | some number =>
          if maxGroups ≤ number then .error (.groupNumber number, here)
          else if groups.conditions.any fun entry => entry.1 = number then pure (number, groups)
          else pure (number, { groups with conditions := groups.conditions ++ [(number, here)] })
  groups.checkLookBehind number inside.length
  pure (.level { start, kind := .given number, flags } groups, inside)

/-- Opens a look-behind. -/
def openLookBehind (start : Nat) (flags : PatternFlags) (groups : PatternGroups)
    (kind : Bool → GroupKind) : Opening :=
  let outermost := groups.lookBehind.isNone
  .level { start, kind := kind outermost, flags }
    { groups with lookBehind := groups.lookBehind.or (some groups.next) }

/-- Opens what an opening parenthesis starts, from what stands behind it. -/
def openGroup (flags : PatternFlags) (groups : PatternGroups) (rest : Text) :
    PatternRead (Opening × Text) :=
  let start := rest.length + 1
  let plain (kind : GroupKind) : Opening := .level { start, kind, flags } groups
  match rest with
  | '?' :: 'P' :: '<' :: text => openNamed start flags groups text
  | '?' :: 'P' :: '=' :: text => openReference flags groups text
  | '?' :: 'P' :: [] => .error (.patternEnds, 0)
  | '?' :: 'P' :: text => .error (.extension ('P' :: firstUnit text), rest.length)
  | '?' :: ':' :: inside => .ok (plain .plain, inside)
  | '?' :: '>' :: inside => .ok (plain .committed, inside)
  | '?' :: '=' :: inside => .ok (plain .ahead, inside)
  | '?' :: '!' :: inside => .ok (plain .notAhead, inside)
  | '?' :: '<' :: '=' :: inside => .ok (openLookBehind start flags groups .behind, inside)
  | '?' :: '<' :: '!' :: inside => .ok (openLookBehind start flags groups .notBehind, inside)
  | '?' :: '<' :: [] => .error (.patternEnds, 0)
  | '?' :: '<' :: text => .error (.extension ('<' :: firstUnit text), rest.length)
  | '?' :: '#' :: text => do
      let behind ← skipComment start text
      pure (.comment, behind)
  | '?' :: '(' :: text => openCondition start flags groups text
  | '?' :: [] => .error (.patternEnds, 0)
  | '?' :: c :: text =>
      if c = '-' ∨ c ∈ PatternFlags.letters then do
        let (change, inside) ← readFlags (c :: text)
        match change with
        | .group on off =>
            pure (.level { start, kind := .scoped, flags := flags.change on off } groups, inside)
        | .pattern on => pure (.flags on, inside)
      else .error (.extension (firstUnit (c :: text)), rest.length)
  | _ => .ok (openCaptured start flags groups, rest)

/-! ## Whole patterns -/

/-- The white space that does not count in verbose patterns. -/
def isPatternSpace (c : Char) : Bool :=
  c == ' ' || (decide (9 ≤ c.toNat) && decide (c.toNat ≤ 13))

/-- What stands behind the comment of a verbose pattern, which ends with its line. -/
def skipLine : Text → Text
  | [] => []
  | '\\' :: _ :: rest => skipLine rest
  | c :: rest => if c = '\n' then rest else skipLine rest

/-- Reads one unit of a pattern that opens and closes no group. -/
def readAtom (flags : PatternFlags) (groups : PatternGroups) (c : Char) (rest : Text) :
    PatternRead (PatternAtom × Text) :=
  match c with
  | '.' => .ok (.one .any flags, rest)
  | '^' => .ok (.anchor .lineStart flags, rest)
  | '$' => .ok (.anchor .lineEnd flags, rest)
  | '[' => do
      let (unit, behind) ← readClass rest
      pure (.one unit flags, behind)
  | '\\' =>
      match rest with
      | [] => .error (.escapeAtEnd, 1)
      | escaped :: inside => do
          let (symbol, behind) ← readEscape escaped inside
          let atom ← groups.atom flags (rest.length + 1 - behind.length) behind.length symbol
          pure (atom, behind)
  | _ => .ok (.one (.point c.toNat) flags, rest)

/-- Reads a pattern into a level with further levels around it. -/
def readPattern : Nat → PatternGroups → PatternLevel → List PatternLevel → Text →
    PatternRead (List PatternAtom × PatternGroups)
  | _, groups, level, [], [] => .ok (level.choice, groups)
  | _, _, level, _ :: _, [] => .error (.unclosedGroup, level.start)
  | 0, _, level, _, _ => .error (.unclosedGroup, level.start)
  | fuel + 1, groups, level, outer, c :: rest =>
      if level.flags.verbose && isPatternSpace c then readPattern fuel groups level outer rest
      else if level.flags.verbose && c == '#' then
        readPattern fuel groups level outer (skipLine rest)
      else
        match readRepetition (c :: rest) with
        | some (bounds, behind) => do
            let (level, behind) ← level.repeatLast (rest.length + 1) bounds behind
            readPattern fuel groups level outer behind
        | none =>
            match c, outer with
            | '|', _ => do
                let level ← level.next (rest.length + 1)
                readPattern fuel groups level outer rest
            | ')', [] => .error (.unbalancedGroup, rest.length + 1)
            | ')', around :: others =>
                let (item, groups) := level.close groups
                readPattern fuel groups (around.push item) others rest
            | '(', _ => do
                let (opening, inside) ← openGroup level.flags groups rest
                match opening with
                | .level inner groups => readPattern fuel groups inner (level :: outer) inside
                | .atom atom => readPattern fuel groups (level.push (.atom atom)) outer inside
                | .comment => readPattern fuel groups level outer inside
                | .flags on =>
                    if outer.isEmpty ∧ level.alternatives.isEmpty ∧ level.items.isEmpty then
                      readPattern fuel groups { level with flags := level.flags.change on [] }
                        outer inside
                    else .error (.lateFlags, rest.length + 1)
            | _, _ => do
                let (atom, behind) ← readAtom level.flags groups c rest
                readPattern fuel groups (level.push (.atom atom)) outer behind

/-- The pattern that a text stands for. -/
def Pattern.ofText (text : Text) : Except PatternError Pattern :=
  let level : PatternLevel := { start := text.length, kind := .plain, flags := {} }
  let failure (problem : PatternProblem) (behind : Nat) : Except PatternError Pattern :=
    .error ⟨text, problem, text.length - behind⟩
  match readPattern text.length {} level [] text with
  | .error (problem, later) => failure problem later
  | .ok (atoms, groups) =>
      match groups.conditions.find? fun entry => groups.next ≤ entry.1 with
      | some (number, later) => failure (.groupNumber number) later
      | none => if groups.uneven then failure .unevenLookBehind 0 else .ok (sequencePattern atoms)

end ShaderMarkup
