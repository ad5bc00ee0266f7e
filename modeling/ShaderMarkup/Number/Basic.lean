import ShaderMarkup.Number.Decimal

/-!
# Numbers

A number is an integer of any size or a double, and the two are kept apart.  Sums, differences and
products of integers are exact; a quotient of integers is the nearest double.  Where an integer
meets a double it is first rounded to the nearest double, which fails for one that is too large.

Numbers are compared by their exact values, whichever of the two they are.
-/

namespace ShaderMarkup

/-- An integer or a double. -/
inductive Number where
  | int (n : Int)
  | float (x : Float)

/-- Why arithmetic has no result. -/
inductive ArithmeticFault where
  | divisionByZero
  | overflow
deriving DecidableEq

namespace Number

/-! ## Values -/

/-- The exact value. -/
def exact : Number → Binary
  | .int n => Binary.ofInt n
  | .float x => Binary.ofFloat x

/-- The nearest double; an integer beyond the largest double has none. -/
def toFloat? : Number → Option Float
  | .int n => floatOfQuotient? (n < 0) n.natAbs 1
  | .float x => some x

/-- The text of a number. -/
def text : Number → Text
  | .int n => Text.ofInt n
  | .float x => floatText x

/-! ## Comparison -/

/-- The order of two numbers by value; there is none where one of them is no number. -/
def order? (a b : Number) : Option Ordering :=
  a.exact.order? b.exact

/-- Equality by value. -/
def same (a b : Number) : Bool :=
  a.order? b == some .eq

/-- Whether `a` is at most `b`. -/
def atMost (a b : Number) : Bool :=
  a.order? b == some .lt || a.order? b == some .eq

/-- Whether `a` is below `b`. -/
def below (a b : Number) : Bool :=
  a.order? b == some .lt

/-! ## Arithmetic -/

/-- An operation on doubles applied to two numbers, once integers are rounded. -/
def onFloats (operation : Float → Float → Except ArithmeticFault Float) (a b : Number) :
    Except ArithmeticFault Number :=
  match a.toFloat?, b.toFloat? with
  | some x, some y =>
      match operation x y with
      | .ok z => .ok (.float z)
      | .error fault => .error fault
  | _, _ => .error .overflow

/-- The sum. -/
def add : Number → Number → Except ArithmeticFault Number
  | .int a, .int b => .ok (.int (a + b))
  | a, b => onFloats (fun x y => .ok (x + y)) a b

/-- The difference. -/
def sub : Number → Number → Except ArithmeticFault Number
  | .int a, .int b => .ok (.int (a - b))
  | a, b => onFloats (fun x y => .ok (x - y)) a b

/-- The product. -/
def mul : Number → Number → Except ArithmeticFault Number
  | .int a, .int b => .ok (.int (a * b))
  | a, b => onFloats (fun x y => .ok (x * y)) a b

/-- The quotient, always a double.  The quotient of integers is rounded once, so they may
themselves be too large for doubles. -/
def div : Number → Number → Except ArithmeticFault Number
  | .int a, .int b =>
      if b = 0 then .error .divisionByZero
      else
        match floatOfQuotient? ((decide (a < 0)) != (decide (b < 0))) a.natAbs b.natAbs with
        | some x => .ok (.float x)
        | none => .error .overflow
  | a, b => onFloats (fun x y => if y == 0 then .error .divisionByZero else .ok (x / y)) a b

/-- The number with the other sign. -/
def neg : Number → Number
  | .int n => .int (-n)
  | .float x => .float (-x)

/-! ## Integers among the numbers -/

/-- The integer that a number is, if it is one. -/
def toInt? (a : Number) : Option Int :=
  a.exact.toInt?

/-- Whether the number is finite. -/
def isFinite (a : Number) : Bool :=
  a.exact.isFinite

/-- Whether the number is an integer that no double comes near. -/
def isOversized (a : Number) : Bool :=
  a.toFloat?.isNone

end Number

end ShaderMarkup
