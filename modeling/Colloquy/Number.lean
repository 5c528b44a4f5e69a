import Colloquy.Decimal.Reader
import Colloquy.Error.Basic

/-!
# Numbers

Durations and factors may be given as integers or as floats. Integers are exact;
as soon as a float takes part, the integer is rounded to the nearest float, which
fails when there is none.
-/

namespace Colloquy

/-- A number: an integer of any size or a float. -/
inductive Number
  | int (i : Int)
  | float (x : Float)

namespace Number

/-- The number that a value is. Truth values count as integers. -/
def ofValue? : Value → Option Number
  | .int i => some (.int i)
  | .bool b => some (.int (Value.intOfBool b))
  | .float x => some (.float x)
  | _ => none

/-- The value of a number. -/
def toValue : Number → Value
  | .int i => .int i
  | .float x => .float x

/-- The exception for an integer beyond the range of floats. -/
def tooLarge : Exception :=
  .foreign .overflow "int too large to convert to float"

/-- The exception for a power beyond the range of floats. -/
def outOfRange : Exception :=
  .foreign .overflow "(34, 'Numerical result out of range')"

/-- The float nearest to an integer. -/
def floatOfInt (i : Int) : Except Exception Float :=
  let x := Decimal.nearestFloat (i < 0) i.natAbs 0
  if x.isInf then .error tooLarge else .ok x

/-- The float nearest to a number. -/
def toFloat : Number → Except Exception Float
  | .int i => floatOfInt i
  | .float x => .ok x

/-! ## Order -/

/-- A finite float as a fraction. -/
def fractionOf (x : Float) : Int × Nat :=
  let bits := x.toBits.toNat
  let b := Decimal.Binary.ofBits (bits % Decimal.signBit)
  let magnitude := Decimal.Fraction.scale b.mantissa 2 b.exponent
  (if Decimal.signBit ≤ bits then -(magnitude.num : Int) else magnitude.num, magnitude.den)

/-- Whether an integer is below a float. -/
def intBelow (i : Int) (x : Float) : Bool :=
  if x.isNaN then false
  else if x.isInf then 0.0 < x
  else
    let (num, den) := fractionOf x
    i * den < num

/-- Whether a float is below an integer. -/
def belowInt (x : Float) (i : Int) : Bool :=
  if x.isNaN then false
  else if x.isInf then x < 0.0
  else
    let (num, den) := fractionOf x
    num < i * den

/-- Whether a number is below another one. -/
def below : Number → Number → Bool
  | .int a, .int b => a < b
  | .int a, .float y => intBelow a y
  | .float x, .int b => belowInt x b
  | .float x, .float y => x < y

/-- Whether a number is no number. -/
def isNaN : Number → Bool
  | .int _ => false
  | .float x => x.isNaN

/-- Whether a number is at most another one. -/
def atMost (a b : Number) : Bool :=
  !a.isNaN && !b.isNaN && !b.below a

/-! ## Arithmetic -/

/-- The difference of two numbers. -/
def sub : Number → Number → Except Exception Number
  | .int a, .int b => .ok (.int (a - b))
  | a, b => do return .float ((← a.toFloat) - (← b.toFloat))

/-- The sum of two numbers. -/
def add : Number → Number → Except Exception Number
  | .int a, .int b => .ok (.int (a + b))
  | a, b => do return .float ((← a.toFloat) + (← b.toFloat))

/-- The product of two numbers. -/
def mul : Number → Number → Except Exception Number
  | .int a, .int b => .ok (.int (a * b))
  | a, b => do return .float ((← a.toFloat) * (← b.toFloat))

/-- A power with a natural exponent. A finite float has no infinite power. -/
def pow : Number → Nat → Except Exception Number
  | .int a, n => .ok (.int (a.pow n))
  | .float x, n => do
    let y := Float.pow x (← floatOfInt n)
    if y.isInf && x.isFinite then throw outOfRange
    else return .float y

end Number

/-- The exception for a comparison of a value that is no number with a number. -/
def Value.incomparable (sign : Text) (value : Value) : Exception :=
  .type (Text.concat ["'", sign, "' not supported between instances of '", value.typeName,
    "' and 'int'"])

end Colloquy
