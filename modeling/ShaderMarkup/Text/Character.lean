import ShaderMarkup.Text.Alphanumeric
import ShaderMarkup.Text.Numeral

/-!
# Character classes

The four classes that shader text is read by:

* `isBlank`: the white space that separates words;
* `isWord`: the characters an identifier may go on with;
* `isNameStart`: the ASCII letters and the underscore, which may start an identifier;
* `decimalValue?` and `isDigit`: decimal digits with their value, and digits at large.

Every class answers for ASCII without looking at the tables, so a test of an ASCII character
evaluates in a few steps.
-/

namespace ShaderMarkup

/-- Membership of a code point in a list of closed ranges. -/
def inBlocks (point : Nat) (blocks : List (Nat × Nat)) : Bool :=
  blocks.any fun block => decide (block.1 ≤ point) && decide (point ≤ block.2)

/-- The ranges of white space outside ASCII. -/
def blankBlocks : List (Nat × Nat) :=
  [(0x85, 0x85), (0xA0, 0xA0), (0x1680, 0x1680), (0x2000, 0x200A), (0x2028, 0x2029),
   (0x202F, 0x202F), (0x205F, 0x205F), (0x3000, 0x3000)]

/-- White space: the space, the controls U+0009 to U+000D and U+001C to U+001F, and the separators
of `blankBlocks`. -/
def isBlank (c : Char) : Bool :=
  if c.toNat < 128 then
    c == ' ' || (decide (9 ≤ c.toNat) && decide (c.toNat ≤ 13))
      || (decide (28 ≤ c.toNat) && decide (c.toNat ≤ 31))
  else inBlocks c.toNat blankBlocks

/-- Letters and numerals of any script. -/
def isAlphanumeric (c : Char) : Bool :=
  if c.toNat < 128 then c.isAlphanum else inBlocks c.toNat alphanumericBlocks

/-- The characters that may continue an identifier. -/
def isWord (c : Char) : Bool :=
  c == '_' || isAlphanumeric c

/-- The characters that may start an identifier. -/
def isNameStart (c : Char) : Bool :=
  c == '_' || c.isAlpha

/-- The value of a decimal digit of any script. -/
def decimalValue? (c : Char) : Option Nat :=
  if c.toNat < 128 then
    if c.isDigit then some (c.toNat - '0'.toNat) else none
  else
    (decimalZeros.find? fun base => decide (base ≤ c.toNat) && decide (c.toNat ≤ base + 9)).map
      (c.toNat - ·)

/-- Decimal digits of any script. -/
def isDecimal (c : Char) : Bool :=
  (decimalValue? c).isSome

/-- Digits of any script, those included that have no place in a decimal numeral. -/
def isDigit (c : Char) : Bool :=
  isDecimal c || inBlocks c.toNat digitBlocks

end ShaderMarkup
