import ShaderMarkup.Text.Basic
import ShaderMarkup.Text.Digits
import ShaderMarkup.Text.Unseen

/-!
# Quoted text

A text in quotes, as messages show it: in single quotes, or in double quotes where only single ones
occur in it.  Quotes of that kind, backslashes and characters that cannot be seen are escaped.
-/

namespace ShaderMarkup

namespace Text

/-- The digits of a number in base sixteen, filled up with zeros to a width. -/
def hexDigits (width : Nat) (n : Nat) : Text :=
  let digits := Nat.toDigits 16 n
  List.replicate (width - digits.length) '0' ++ digits

/-- Whether a character is shown by its number. -/
def isUnseen (c : Char) : Bool :=
  if c.toNat < 128 then decide (c.toNat < 32) || c.toNat == 127 else inBlocks c.toNat unseenBlocks

/-- A character inside the given quotes. -/
def escaped (mark : Char) (c : Char) : Text :=
  if c = mark || c = '\\' then ['\\', c]
  else if c = '\n' then ['\\', 'n']
  else if c = '\r' then ['\\', 'r']
  else if c = '\t' then ['\\', 't']
  else if !isUnseen c then [c]
  else if c.toNat < 256 then ['\\', 'x'] ++ hexDigits 2 c.toNat
  else if c.toNat < 65536 then ['\\', 'u'] ++ hexDigits 4 c.toNat
  else ['\\', 'U'] ++ hexDigits 8 c.toNat

/-- The quotes for a text. -/
def quoteMark (text : Text) : Char :=
  if text.contains '\'' && !text.contains '"' then '"' else '\''

/-- The text in quotes. -/
def quoted (text : Text) : Text :=
  quoteMark text :: text.flatMap (escaped (quoteMark text)) ++ [quoteMark text]

end Text

end ShaderMarkup
