import ShaderMarkup.Pattern.Unit

/-!
# Search patterns

A pattern describes texts by choices, sequences, repetitions and groups.
-/

namespace ShaderMarkup

/-- How often an item is repeated. -/
structure Bounds where
  least : Nat
  most : Option Nat
deriving DecidableEq

/-- Which number of times a repetition prefers: more, fewer, or as many as there are. -/
inductive Manner where
  | greedy
  | lazy
  | possessive
deriving DecidableEq

/-- A search pattern. -/
inductive Pattern where
  /-- Matches the empty text. -/
  | nothing
  /-- Matches nothing at all. -/
  | never
  /-- Matches one character. -/
  | one (unit : CharUnit) (flags : PatternFlags)
  /-- Matches the empty text at certain places. -/
  | anchor (anchor : Anchor) (flags : PatternFlags)
  /-- Matches one pattern, then the other. -/
  | seq (first second : Pattern)
  /-- Matches an alternative or else one of the others, which end with `never`. -/
  | either (first others : Pattern)
  /-- Matches as the body does, which has flags of its own. -/
  | scoped (body : Pattern)
  /-- Matches a run of characters. -/
  | units (bounds : Bounds) (manner : Manner) (unit : CharUnit) (flags : PatternFlags)
  /-- Matches the body several times. -/
  | repeated (bounds : Bounds) (manner : Manner) (body : Pattern)
  /-- Matches as the body does, but only in the way that it prefers. -/
  | committed (body : Pattern)
  /-- Matches the empty text where the body matches behind the place. -/
  | ahead (body : Pattern)
  /-- Matches the empty text where the body does not match behind the place. -/
  | notAhead (body : Pattern)
  /-- Matches the empty text where the body matches the characters in front of the place. -/
  | behind (width : Nat) (body : Pattern)
  /-- Matches the empty text where the body does not match the characters in front of the place. -/
  | notBehind (width : Nat) (body : Pattern)
  /-- Matches as the body does and captures the text for a group. -/
  | captured (group : Nat) (body : Pattern)
  /-- Matches the text that a group has captured. -/
  | reference (group : Nat) (flags : PatternFlags)
  /-- Matches the one pattern where a group has captured a text, otherwise the other. -/
  | given (group : Nat) (present missing : Pattern)
deriving DecidableEq

namespace Pattern

/-- The patterns one after the other. -/
def ofList : List Pattern → Pattern
  | [] => .nothing
  | [pattern] => pattern
  | pattern :: others => .seq pattern (ofList others)

/-- The choice between patterns. -/
def choice : List Pattern → Pattern
  | [] => .never
  | pattern :: others => .either pattern (choice others)

/-- The unit and its flags, if the pattern is nothing but one. -/
def unit? : Pattern → Option (CharUnit × PatternFlags)
  | .one unit flags => some (unit, flags)
  | .scoped body => body.unit?
  | _ => none

/-- The repetition of a pattern. -/
def times (body : Pattern) (bounds : Bounds) (manner : Manner) : Pattern :=
  match body.unit? with
  | some (unit, flags) => .units bounds manner unit flags
  | none => .repeated bounds manner body

/-- The unit that a pattern starts with, where nothing has to be done before it, or what follows the
pattern starts with. -/
def leading? : Pattern → Option (CharUnit × PatternFlags) → Option (CharUnit × PatternFlags)
  | .nothing, following => following
  | .one unit flags, _ => some (unit, flags)
  | .seq first second, following => first.leading? (second.leading? following)
  | .scoped body, following => body.leading? following
  | _, _ => none

end Pattern

end ShaderMarkup
