import ShaderMarkup.Number.Basic
import ShaderMarkup.Text.Reader

/-!
# Number literals

A literal is kept as it is written: the digits before the point, those behind it, and the exponent.
One with neither point nor exponent is an integer, any other a double.
-/

namespace ShaderMarkup

/-- The exponent of a literal as written: its mark, its sign if there is one, and its digits. -/
structure ExponentPart where
  mark : Char
  sign : Option Char
  digits : Text
deriving DecidableEq

/-- A number literal as written. -/
structure Literal where
  whole : Text
  fraction : Option Text := none
  exponent : Option ExponentPart := none
deriving DecidableEq

namespace Literal

/-! ## Reading and writing -/

/-- Reads an exponent. -/
def readExponent : Reader ExponentPart := do
  let mark ← Reader.one fun c => c == 'e' || c == 'E'
  let sign ← Reader.optional (Reader.one fun c => c == '+' || c == '-')
  let digits ← Reader.run1 isDecimal
  pure ⟨mark, sign, digits⟩

/-- Reads digits with a point behind them, a point with digits behind it, or digits alone. -/
def readMantissa : Reader (Text × Option Text) :=
  Reader.orElse
    (do
      let whole ← Reader.run1 isDecimal
      let fraction ← Reader.optional do
        Reader.symbol '.'
        Reader.run isDecimal
      pure (whole, fraction))
    (do
      Reader.symbol '.'
      let fraction ← Reader.run1 isDecimal
      pure ([], some fraction))

/-- Reads a literal. -/
def read : Reader Literal := do
  let (whole, fraction) ← readMantissa
  let exponent ← Reader.optional readExponent
  pure ⟨whole, fraction, exponent⟩

/-- The text of an exponent. -/
def exponentText (exponent : ExponentPart) : Text :=
  exponent.mark :: exponent.sign.toList ++ exponent.digits

/-- The text of a literal. -/
def text (literal : Literal) : Text :=
  literal.whole ++ (literal.fraction.elim [] ('.' :: ·))
    ++ (literal.exponent.elim [] exponentText)

/-! ## Values -/

/-- Whether the literal has neither point nor exponent. -/
def isInteger (literal : Literal) : Bool :=
  literal.fraction.isNone && literal.exponent.isNone

/-- The power of ten that an exponent stands for. -/
def exponentValue (exponent : ExponentPart) : Int :=
  let magnitude : Int := Text.natValue exponent.digits
  if exponent.sign = some '-' then -magnitude else magnitude

/-- The decimal fraction that a literal stands for. -/
def decimal (literal : Literal) : Decimal :=
  let places := literal.fraction.getD []
  ⟨Text.natValue (literal.whole ++ places),
    literal.exponent.elim 0 exponentValue - places.length⟩

/-- The number that a literal stands for.  An integer of more than `Text.maxDigits` digits has
none. -/
def value? (literal : Literal) : Option Number :=
  if literal.isInteger then
    if literal.whole.length ≤ Text.maxDigits then some (.int (Text.natValue literal.whole))
    else none
  else some (.float (literal.decimal.toFloat false))

end Literal

/-! ## The texts of doubles -/

/-- The double that a text stands for: a literal, infinity or no number, after a sign if there is
one.  It reads back what `floatText` writes. -/
def floatOfText? (text : Text) : Option Float :=
  let negative := decide (text.head? = some '-')
  let magnitude := if negative || text.head? = some '+' then text.drop 1 else text
  if magnitude = "nan".toList then some (Float.ofBits 0x7FF8000000000000)
  else if magnitude = "inf".toList then some (floatOfBits negative infinityBits)
  else (Reader.whole Literal.read magnitude).map fun literal => literal.decimal.toFloat negative

end ShaderMarkup
