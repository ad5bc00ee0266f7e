import ShaderMarkup.Text.Basic

/-!
# Places in a text

A place lies between two characters of a text, or at one of its ends.  Both sides are kept, so that
a pattern can look ahead and back.
-/

namespace ShaderMarkup

/-- A place in a text: the characters in front of it, the nearest first, and those behind it. -/
structure Place where
  before : Text
  rest : Text
deriving DecidableEq

namespace Place

/-- How many characters stand in front of the place. -/
def offset (place : Place) : Nat :=
  place.before.length

/-- How many characters the whole text has. -/
def size (place : Place) : Nat :=
  place.before.length + place.rest.length

/-- Whether the place is the start of the text. -/
def isStart (place : Place) : Bool :=
  place.before.isEmpty

/-- Whether nothing stands behind the place. -/
def isEnd (place : Place) : Bool :=
  place.rest.isEmpty

/-- Whether the place is the start of a line. -/
def isLineStart (place : Place) : Bool :=
  place.before.head?.all (· == '\n')

/-- Whether the place is the end of a line. -/
def isLineEnd (place : Place) : Bool :=
  place.rest.head?.all (· == '\n')

/-- Whether nothing but at most one line break stands behind the place. -/
def isLastLineEnd (place : Place) : Bool :=
  place.rest.isEmpty || place.rest == ['\n']

/-- Whether exactly one of the neighbours is of the class. -/
def isEdge (accepts : Char → Bool) (place : Place) : Bool :=
  place.before.head?.any accepts != place.rest.head?.any accepts

/-- The place so many characters further on. -/
def forward (place : Place) (width : Nat) : Place :=
  ⟨(place.rest.take width).reverse ++ place.before, place.rest.drop width⟩

/-- The place so many characters further back. -/
def back (place : Place) (width : Nat) : Place :=
  ⟨place.before.drop width, (place.before.take width).reverse ++ place.rest⟩

/-- The text from one place to a later one. -/
def textTo (first last : Place) : Text :=
  first.rest.take (last.offset - first.offset)

end Place

end ShaderMarkup
