/-!
# Binary fractions

The doubles seen as exact numbers: a finite double is `± mantissa · 2 ^ exponent` with a natural
mantissa.  `Binary.ofFloat` takes a double apart, and `nearestBits` rounds an exact quotient of
natural numbers to the nearest double, a tie to the even neighbour.  Everything in between is
arithmetic on `Nat` and `Int`.
-/

namespace ShaderMarkup

/-- Powers of two. -/
def twoPow (n : Nat) : Nat :=
  Nat.pow 2 n

/-- The exact value of a double. -/
inductive Binary where
  | nan
  | infinite (negative : Bool)
  | finite (negative : Bool) (mantissa : Nat) (exponent : Int)
deriving DecidableEq

namespace Binary

/-- The exact value of a double, from its sign, its eleven bits of exponent and its fifty-two bits
of fraction. -/
def ofFloat (x : Float) : Binary :=
  let bits := x.toBits.toNat
  let negative := decide (twoPow 63 ≤ bits)
  let field : Nat := bits / twoPow 52 % twoPow 11
  let fraction : Nat := bits % twoPow 52
  if field = 2047 then if fraction = 0 then .infinite negative else .nan
  else if field = 0 then .finite negative fraction (-1074)
  else .finite negative (fraction + twoPow 52) ((field : Int) - 1075)

/-- An integer as an exact value. -/
def ofInt (n : Int) : Binary :=
  .finite (n < 0) n.natAbs 0

/-- The mantissa with its sign. -/
def signed (negative : Bool) (mantissa : Nat) : Int :=
  if negative then -(mantissa : Int) else mantissa

/-- The mantissa at a common, smaller exponent. -/
def scaled (negative : Bool) (mantissa : Nat) (exponent common : Int) : Int :=
  signed negative mantissa * twoPow (exponent - common).toNat

/-- The order of two exact values; there is none where one of them is no number. -/
def order? : Binary → Binary → Option Ordering
  | .nan, _ => none
  | _, .nan => none
  | .infinite s, .infinite t => some (compare (signed s 1) (signed t 1))
  | .infinite s, .finite _ _ _ => some (if s then .lt else .gt)
  | .finite _ _ _, .infinite t => some (if t then .gt else .lt)
  | .finite s m e, .finite t n f =>
      let common := min e f
      some (compare (scaled s m e common) (scaled t n f common))

/-- The integer that the value is, if it is one. -/
def toInt? : Binary → Option Int
  | .finite s m e =>
      if 0 ≤ e then some (signed s m * twoPow e.toNat)
      else
        let unit := twoPow (-e).toNat
        if m % unit = 0 then some (signed s (m / unit)) else none
  | _ => none

/-- Whether the value is a finite number. -/
def isFinite : Binary → Bool
  | .finite _ _ _ => true
  | _ => false

end Binary

/-! ## Rounding -/

/-- The natural number nearest to a quotient; a tie goes to the even one. -/
def roundQuotient (num den : Nat) : Nat :=
  let quotient := num / den
  let remainder := num % den
  if 2 * remainder < den then quotient
  else if den < 2 * remainder then quotient + 1
  else quotient + quotient % 2

/-- Whether `num / den < 2 ^ exponent`. -/
def belowPower (num den : Nat) (exponent : Int) : Bool :=
  if 0 ≤ exponent then decide (num < den * twoPow exponent.toNat)
  else decide (num * twoPow (-exponent).toNat < den)

/-- The exponent of the largest power of two that is not above a positive quotient. -/
def quotientLog2 (num den : Nat) : Int :=
  let estimate : Int := num.log2 - den.log2
  if belowPower num den estimate then estimate - 1 else estimate

/-- The bits of the double nearest to a quotient.  From `infinityBits` on it is too large for a
finite double. -/
def nearestBits (num den : Nat) : Nat :=
  if num = 0 then 0
  else
    let unit : Int := max (quotientLog2 num den - 52) (-1074)
    let mantissa :=
      if 0 ≤ unit then roundQuotient num (den * twoPow unit.toNat)
      else roundQuotient (num * twoPow (-unit).toNat) den
    (unit + 1074).toNat * twoPow 52 + mantissa

/-- The bits of positive infinity. -/
def infinityBits : Nat := 2047 * twoPow 52

/-- The double with the given sign and bits of magnitude; infinity if they are beyond it. -/
def floatOfBits (negative : Bool) (bits : Nat) : Float :=
  Float.ofBits (UInt64.ofNat (min bits infinityBits + if negative then twoPow 63 else 0))

/-- The double nearest to a signed quotient, unless that is too large for a finite one. -/
def floatOfQuotient? (negative : Bool) (num den : Nat) : Option Float :=
  let bits := nearestBits num den
  if infinityBits ≤ bits then none else some (floatOfBits negative bits)

end ShaderMarkup
