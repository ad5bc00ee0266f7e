import ShaderMarkup.Pattern.Basic

/-!
# Matching search patterns

A match is sought by trying.  What it has come to is its trail: the place it has tried last and the
marks of the groups it has passed.  An attempt that fails leaves a trail as well.  Parts that try
again go back to their own place and put back the marks they can put back: inside a repetition all
marks are put back, elsewhere only marks that were added are dropped.  A possessive repetition does
not go back: it goes on from the place that the last attempt has left.

`Pattern.lead` goes through the matches of a pattern from a place, the preferred one first, until
one of them leads to a match of what follows.  `Pattern.allMatches` finds the matches in a whole
text from left to right.
-/

namespace ShaderMarkup

/-! ## Trails -/

/-- What an attempt has come to: the place that was tried last, and the marks of the groups: the
start and the end of the first group, of the second, and so on. -/
structure Trail where
  place : Place
  marks : List (Option Place) := []
deriving DecidableEq

namespace Trail

/-- The trail with another place. -/
def movedTo (trail : Trail) (place : Place) : Trail :=
  { trail with place }

/-- Sets a mark.  Marks that are passed over stay open. -/
def mark (trail : Trail) (index : Nat) (place : Place) : Trail :=
  let open_ := List.replicate (index + 1 - trail.marks.length) none
  { trail with marks := (trail.marks ++ open_).set index (some place) }

/-- The text that a group has captured. -/
def capture? (trail : Trail) (group : Nat) : Option Text :=
  match trail.marks[2 * group - 2]?, trail.marks[2 * group - 1]? with
  | some (some first), some (some last) =>
      if first.offset ≤ last.offset then some (first.textTo last) else none
  | _, _ => none

/-- What a failed attempt has left, with the marks put back to those of the trail: all of them, or
else only those that were added. -/
def takeBack (trail : Trail) (all : Bool) (left : Trail) : Trail :=
  { left with marks := if all then trail.marks else left.marks.take trail.marks.length }

/-- Whether no group ends in front of its start. -/
def isSound (trail : Trail) : Bool :=
  pairs trail.marks
where
  /-- Goes through the starts and the ends. -/
  pairs : List (Option Place) → Bool
    | some first :: some last :: others => decide (first.offset ≤ last.offset) && pairs others
    | _ :: _ :: others => pairs others
    | _ => true

end Trail

/-- The trail of a match, or what a failed attempt has left. -/
abbrev Attempt := Except Trail Trail

/-- What follows a part of a pattern: the unit it starts with, if it does, and the attempt to match
it from a place. -/
structure Onward where
  leading : Option (CharUnit × PatternFlags) := none
  go : Place → Trail → Attempt

namespace Onward

/-- Nothing follows. -/
def done : Onward where
  go place trail := .ok (trail.movedTo place)

/-- The only code point that what follows can start with. -/
def literal? (onward : Onward) : Option Nat :=
  onward.leading.bind fun (unit, flags) => unit.literal? flags

/-- Goes on from a place, or back to it. -/
def finish (onward : Onward) (place : Place) (trail : Trail) : Attempt :=
  (onward.go place (trail.movedTo place)).tryCatch fun left => .error (left.movedTo place)

end Onward

/-! ## Runs of characters -/

/-- Goes on behind the run of `least` characters and so many more, and if that fails, behind shorter
ones.  Places where the text cannot go on as it has to are not tried. -/
def shrinkRun (onward : Onward) (all : Bool) (start : Trail) (least : Nat) (first : Place) :
    Nat → Trail → Attempt
  | more, trail =>
      let place := first.forward (least + more)
      let shorter (left : Trail) : Attempt :=
        match more with
        | 0 => .error left
        | more + 1 => shrinkRun onward all start least first more left
      if onward.literal?.all fun code => place.rest.head?.any fun c => c.toNat == code then
        (onward.go place (trail.movedTo place)).tryCatch fun left =>
          shorter (start.takeBack all left)
      else shorter trail

/-- Goes on at the place, and if that fails, behind up to so many characters more. -/
def growRun (onward : Onward) (all : Bool) (start : Trail) (unit : CharUnit)
    (flags : PatternFlags) : Nat → Place → Trail → Attempt
  | more, place, trail =>
      (onward.go place (trail.movedTo place)).tryCatch fun left =>
        let back := (start.takeBack all left).movedTo place
        let next := place.forward 1
        if place.rest.head?.any fun c => unit.accepts flags c then
          match more with
          | 0 => .error (if unit.isStepped flags then back.movedTo next else back)
          | more + 1 => growRun onward all start unit flags more next back
        else .error back

/-- Matches a run of characters. -/
def leadUnits (bounds : Bounds) (manner : Manner) (unit : CharUnit) (flags : PatternFlags)
    (all : Bool) (place : Place) (trail : Trail) (onward : Onward) : Attempt :=
  let counted (most : Option Nat) : Nat := unit.count flags most place.rest
  let reached (count : Nat) : Trail :=
    trail.movedTo (if unit.isStepped flags then place.forward count else place)
  if place.rest.length < bounds.least then .error trail
  else
    match manner with
    | .greedy =>
        let count := counted bounds.most
        if count < bounds.least then .error (reached count)
        else shrinkRun onward all trail bounds.least place (count - bounds.least) (reached count)
    | .lazy =>
        let count := counted (some bounds.least)
        if count < bounds.least then .error (reached count)
        else
          let more := (bounds.most.map (· - bounds.least)).getD place.rest.length
          growRun onward all trail unit flags more (place.forward count) (reached count)
    | .possessive =>
        let count := counted bounds.most
        if count < bounds.least then .error (reached count)
        else onward.go (place.forward count) (reached count)

/-! ## Repetitions -/

/-- One time of a repetition, from a place and on to what follows it. -/
abbrev Turn := Place → Trail → (Place → Trail → Attempt) → Attempt

/-- The times that a repetition must have. -/
def requiredTurns (turn : Turn) (further : Place → Trail → Attempt) :
    Nat → Place → Trail → Attempt
  | 0, place, trail => further place trail
  | least + 1, place, trail =>
      (turn place (trail.movedTo place) (requiredTurns turn further least)).tryCatch fun left =>
        .error (left.movedTo place)

/-- The times that a greedy repetition can have, where the last one has started at an offset.
Behind a time that takes up nothing there is no other one. -/
def greedyTurns (turn : Turn) (onward : Onward) : Nat → Option Nat → Place → Trail → Attempt
  | 0, _, place, trail => onward.finish place trail
  | more + 1, last, place, trail =>
      if last = some place.offset then onward.finish place trail
      else
        (turn place (trail.movedTo place)
          (greedyTurns turn onward more (some place.offset))).tryCatch fun left =>
            onward.finish place (trail.takeBack true left)

/-- The times that a lazy repetition can have. -/
def lazyTurns (turn : Turn) (onward : Onward) (all : Bool) :
    Nat → Option Nat → Place → Trail → Attempt
  | more, last, place, trail =>
      (onward.go place (trail.movedTo place)).tryCatch fun left =>
        let back := (trail.takeBack all left).movedTo place
        match more with
        | 0 => .error back
        | more + 1 =>
            if last = some place.offset then .error back
            else
              (turn place back (lazyTurns turn onward all more (some place.offset))).tryCatch
                fun left => .error (left.movedTo place)

/-- The times that a possessive repetition must have, each from where the last one ends. -/
def requiredTimes (time : Trail → Attempt) : Nat → Trail → Attempt
  | 0, trail => .ok trail
  | least + 1, trail => do requiredTimes time least (← time trail)

/-- The further times of a possessive repetition.  The one that fails is given up, but the place
that it has come to stays. -/
def possessiveTimes (time : Trail → Attempt) : Nat → Option Nat → Trail → Trail
  | 0, _, trail => trail
  | more + 1, last, trail =>
      if last = some trail.place.offset then trail
      else
        match time trail with
        | .ok next => possessiveTimes time more (some trail.place.offset) next
        | .error left => trail.takeBack true left

/-- Matches a repetition.  Without a bound, more times than the text has characters, and one, make
no difference. -/
def leadRepeated (turn : Turn) (bounds : Bounds) (manner : Manner) (all : Bool) (place : Place)
    (trail : Trail) (onward : Onward) : Attempt :=
  let more := (bounds.most.map (· - bounds.least)).getD (place.size + 1)
  match manner with
  | .greedy => requiredTurns turn (greedyTurns turn onward more none) bounds.least place trail
  | .lazy => requiredTurns turn (lazyTurns turn onward all more none) bounds.least place trail
  | .possessive =>
      let time (start : Trail) : Attempt := turn start.place start Onward.done.go
      match requiredTimes time bounds.least (trail.movedTo place) with
      | .error left => .error (left.movedTo place)
      | .ok next =>
          let stop := possessiveTimes time more none next
          onward.go stop.place stop

/-! ## Patterns -/

namespace Pattern

/-- Whether a choice passes over an alternative because of the next character. -/
def isPassedOver (alternative : Pattern) (place : Place) : Bool :=
  (alternative.leading? none).any fun (unit, flags) =>
    unit.isLookedUp flags && !place.rest.head?.any fun c => unit.accepts flags c

/-- The attempt to match a pattern from a place and then what follows.  Failed attempts take back
all marks if `all` is set, which it is inside repetitions. -/
def lead : Pattern → Bool → Place → Trail → Onward → Attempt
  | .nothing, _, place, trail, onward => onward.go place trail
  | .never, _, _, trail, _ => .error trail
  | .one unit flags, _, place, trail, onward =>
      if place.rest.head?.any fun c => unit.accepts flags c then onward.go (place.forward 1) trail
      else .error trail
  | .anchor kind flags, _, place, trail, onward =>
      if kind.holds flags place then onward.go place trail else .error trail
  | .seq first second, all, place, trail, onward =>
      first.lead all place trail
        ⟨second.leading? onward.leading, fun stop next => second.lead all stop next onward⟩
  | .either first others, all, place, trail, onward =>
      if first.isPassedOver place then others.lead all place trail onward
      else
        (first.lead all place (trail.movedTo place) { go := onward.go }).tryCatch fun left =>
          others.lead all place (trail.takeBack all left) onward
  | .scoped body, all, place, trail, onward => body.lead all place trail onward
  | .units bounds manner unit flags, all, place, trail, onward =>
      leadUnits bounds manner unit flags all place trail onward
  | .repeated bounds manner body, all, place, trail, onward =>
      let inside := all || decide (manner ≠ .possessive)
      leadRepeated (fun start next go => body.lead inside start next { go }) bounds manner all place
        trail onward
  | .committed body, all, place, trail, onward =>
      match body.lead all place (trail.movedTo place) .done with
      | .ok stop => onward.go stop.place stop
      | .error left => .error (left.movedTo place)
  | .ahead body, all, place, trail, onward => do
      onward.go place (← body.lead all place (trail.movedTo place) .done)
  | .notAhead body, all, place, trail, onward =>
      match body.lead all place (trail.movedTo place) .done with
      | .ok stop => .error stop
      | .error left => onward.go place (trail.takeBack all left)
  | .behind width body, all, place, trail, onward =>
      if place.offset < width then .error trail
      else do
        let start := place.back width
        onward.go place (← body.lead all start (trail.movedTo start) .done)
  | .notBehind width body, all, place, trail, onward =>
      if place.offset < width then onward.go place trail
      else
        let start := place.back width
        match body.lead all start (trail.movedTo start) .done with
        | .ok stop => .error stop
        | .error left => onward.go place (trail.takeBack all left)
  | .captured group body, all, place, trail, onward =>
      body.lead all place (trail.mark (2 * group - 2) place)
        { go := fun stop next => onward.go stop (next.mark (2 * group - 1) stop) }
  | .reference group flags, _, place, trail, onward =>
      match trail.capture? group with
      | none => .error trail
      | some text =>
          let found := place.rest.take text.length
          if found.length = text.length
              ∧ (text.zip found).all fun pair => flags.sameCaptured pair.1 pair.2 then
            onward.go (place.forward text.length) trail
          else .error trail
  | .given group present missing, all, place, trail, onward =>
      if (trail.capture? group).isNone then missing.lead all place trail onward
      else if missing = .nothing then present.lead all place trail onward
      else present.lead all place trail { go := onward.go }

/-- The match at a place, if there is one that takes up at least one character where `taking` is
set. -/
def match? (pattern : Pattern) (taking : Bool) (place : Place) : Option Trail :=
  let accept (stop : Place) (trail : Trail) : Attempt :=
    if taking && stop.offset == place.offset then .error trail else .ok (trail.movedTo stop)
  (pattern.lead false place { place } { go := accept }).toOption

/-- The matches at a place.  A match of the empty text may be followed by another one at the same
place. -/
def matchesAt (pattern : Pattern) (place : Place) : List Trail :=
  match pattern.match? false place with
  | none => []
  | some trail =>
      if trail.place.offset ≤ place.offset then trail :: (pattern.match? true place).toList
      else [trail]

/-- The matches behind the next `skip` characters, which a match has taken up: the offsets where
they start, and what they come to. -/
def matchesFrom (pattern : Pattern) : Nat → Text → Text → List (Nat × Trail)
  | 0, before, [] => (pattern.matchesAt ⟨before, []⟩).map (before.length, ·)
  | _ + 1, _, [] => []
  | skip + 1, before, c :: rest => matchesFrom pattern skip (c :: before) rest
  | 0, before, c :: rest =>
      let found := pattern.matchesAt ⟨before, c :: rest⟩
      let stop := (found.getLast?.map fun trail => trail.place.offset).getD 0
      found.map (before.length, ·)
        ++ matchesFrom pattern (stop - before.length - 1) (c :: before) rest

/-- The matches in a text from left to right.  The next match is sought where the last one ends. -/
def allMatches (pattern : Pattern) (text : Text) : List (Nat × Trail) :=
  matchesFrom pattern 0 [] text

end Pattern

end ShaderMarkup
