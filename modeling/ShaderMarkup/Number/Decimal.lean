import ShaderMarkup.Number.Binary
import ShaderMarkup.Text.Digits

/-!
# Decimal fractions

A decimal is `digits · 10 ^ exponent`.  Reading rounds it to the nearest double.  Writing goes the
other way and takes the fewest digits that read back as the same double and, of those, the nearest
to it.

The text of a double is positional where the decimal exponent of its first digit lies between -4
and 15, and has an exponent of at least two digits elsewhere.
-/

namespace ShaderMarkup

/-- Powers of ten. -/
def tenPow (n : Nat) : Nat :=
  Nat.pow 10 n

/-- The decimal fraction `digits · 10 ^ exponent`. -/
structure Decimal where
  digits : Nat
  exponent : Int
deriving DecidableEq

namespace Decimal

/-! ## Reading -/

/-- The bits of the double nearest to the decimal.  Beyond the range of the doubles the power of
ten is not worked out. -/
def bits (decimal : Decimal) : Nat :=
  let magnitude : Int := (Text.ofNat decimal.digits).length + decimal.exponent
  if decimal.digits = 0 then 0
  else if 310 < magnitude then infinityBits
  else if magnitude < -330 then 0
  else if 0 ≤ decimal.exponent then
    min infinityBits (nearestBits (decimal.digits * tenPow decimal.exponent.toNat) 1)
  else nearestBits decimal.digits (tenPow (-decimal.exponent).toNat)

/-- The double nearest to the decimal, infinity beyond the largest. -/
def toFloat (negative : Bool) (decimal : Decimal) : Float :=
  floatOfBits negative decimal.bits

/-! ## The shortest decimal -/

/-- Whether `10 ^ exponent ≤ num / den`. -/
def reachesPower (num den : Nat) (exponent : Int) : Bool :=
  if 0 ≤ exponent then decide (den * tenPow exponent.toNat ≤ num)
  else decide (den ≤ num * tenPow (-exponent).toNat)

/-- The exponent of the largest power of ten that is not above a positive quotient. -/
def quotientLog10 (num den : Nat) : Int :=
  let estimate := (quotientLog2 num den * 30103).fdiv 100000
  if !reachesPower num den estimate then estimate - 1
  else if reachesPower num den (estimate + 1) then estimate + 1
  else estimate

/-- Of the two neighbours of `num / den` among the multiples of `10 ^ exponent`, the one that reads
back as `target`; of two such the nearer, of two equally near the even one. -/
def neighbour? (num den target : Nat) (exponent : Int) : Option Decimal :=
  let scaledNum := if 0 ≤ exponent then num else num * tenPow (-exponent).toNat
  let scaledDen := if 0 ≤ exponent then den * tenPow exponent.toNat else den
  let below := scaledNum / scaledDen
  let remainder := scaledNum % scaledDen
  let lower : Decimal := ⟨below, exponent⟩
  let upper : Decimal := ⟨below + 1, exponent⟩
  if lower.bits = target then
    if upper.bits = target ∧ (scaledDen < 2 * remainder
        ∨ scaledDen = 2 * remainder ∧ below % 2 = 1) then some upper
    else some lower
  else if upper.bits = target then some upper
  else none

/-- The decimal with the fewest digits that reads back as the double with the bits `target`, which
is the positive number `num / den`.  Seventeen digits always do. -/
def shortest (num den target : Nat) : Decimal :=
  let first := quotientLog10 num den
  ((List.range 17).findSome? fun (more : Nat) =>
    neighbour? num den target (first - more)).getD ⟨0, 0⟩

/-! ## Text -/

/-- The digits without the zeros at their end. -/
def significant (digits : Text) : Text :=
  (digits.reverse.dropWhile (· == '0')).reverse

/-- The digits of an exponent: at least two, after a sign. -/
def exponentText (exponent : Int) : Text :=
  let digits := Text.ofNat exponent.natAbs
  (if exponent < 0 then '-' else '+') :: (if digits.length < 2 then '0' :: digits else digits)

/-- The text of a positive decimal. -/
def text (decimal : Decimal) : Text :=
  let written := Text.ofNat decimal.digits
  let leading : Int := decimal.exponent + written.length - 1
  let digits := significant written
  if -4 ≤ leading ∧ leading < 0 then
    ['0', '.'] ++ List.replicate (-leading - 1).toNat '0' ++ digits
  else if 0 ≤ leading ∧ leading < 16 then
    let whole := leading.toNat + 1
    if digits.length ≤ whole then
      digits ++ List.replicate (whole - digits.length) '0' ++ ['.', '0']
    else digits.take whole ++ '.' :: digits.drop whole
  else
    let mantissa :=
      match digits with
      | first :: second :: rest => first :: '.' :: second :: rest
      | short => short
    mantissa ++ 'e' :: exponentText leading

end Decimal

/-- The text of a double: the shortest decimal that reads back, or the name of what is no finite
number. -/
def floatText (x : Float) : Text :=
  match Binary.ofFloat x with
  | .nan => "nan".toList
  | .infinite negative => if negative then "-inf".toList else "inf".toList
  | .finite negative mantissa exponent =>
      let magnitude :=
        if mantissa = 0 then "0.0".toList
        else
          let target := x.toBits.toNat % twoPow 63
          let decimal :=
            if 0 ≤ exponent then Decimal.shortest (mantissa * twoPow exponent.toNat) 1 target
            else Decimal.shortest mantissa (twoPow (-exponent).toNat) target
          decimal.text
      if negative then '-' :: magnitude else magnitude

end ShaderMarkup
