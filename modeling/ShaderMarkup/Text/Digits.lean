import ShaderMarkup.Text.Basic

/-!
# Decimal numerals

Natural numbers and integers as runs of decimal digits: `ofNat` and `ofInt` write them, `natValue`
reads the digits of any script back.
-/

namespace ShaderMarkup.Text

/-- The decimal digits of a natural number. -/
def ofNat (n : Nat) : Text :=
  Nat.toDigits 10 n

/-- The decimal digits of an integer, after a minus sign if it is negative. -/
def ofInt (n : Int) : Text :=
  if n < 0 then '-' :: ofNat n.natAbs else ofNat n.natAbs

/-- The number that a run of decimal digits stands for; other characters count as zero. -/
def natValue (digits : Text) : Nat :=
  digits.foldl (fun value c => 10 * value + (decimalValue? c).getD 0) 0

/-- The most digits that an integer may be written with. -/
def maxDigits : Nat := 4300

end ShaderMarkup.Text
