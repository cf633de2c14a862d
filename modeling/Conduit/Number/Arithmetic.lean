import Conduit.Fault

/-!
# Arithmetic

Sums, products, quotients and powers of numbers. Integers stay exact; as soon as a double takes
part, or a quotient is asked for, the result is a double. Quotients and remainders go to the floor:
the remainder has the sign of the divisor.

* `Number.add`, `Number.sub`, `Number.mul`;
* `Number.divide`, `Number.floorDivide`, `Number.modulo`;
* `Number.power`.
-/

namespace Conduit

namespace Double

/-- The remainder of a division cut towards zero; it is exact and has the sign of `x`. -/
def remainder (x y : Double) : Double :=
  if x.isFinite && !y.isNaN && !y.isZero then
    if y.isInfinite then x
    else
      let r : Int := (x.numerator * y.denominator).tmod (y.numerator * x.denominator)
      ofRatio x.isNegative r.natAbs (x.denominator * y.denominator)
  else nan

/-- The double with the magnitude of `x` and the given sign. -/
def withSign (x : Double) (negative : Bool) : Double :=
  if x.isNegative = negative then x else x.neg

/-- The sum of two doubles. -/
def add (x y : Double) : Double := ofFloat (x.toFloat + y.toFloat)

/-- The difference of two doubles. -/
def sub (x y : Double) : Double := ofFloat (x.toFloat - y.toFloat)

/-- The product of two doubles. -/
def mul (x y : Double) : Double := ofFloat (x.toFloat * y.toFloat)

/-- The quotient of two doubles. -/
def div (x y : Double) : Double := ofFloat (x.toFloat / y.toFloat)

/-- Whether a nonzero remainder has the other sign than the divisor. -/
def needsShift (remainder divisor : Double) : Bool :=
  (divisor.isNegative && !divisor.isNaN && !divisor.isZero)
    != (remainder.isNegative && !remainder.isNaN)

/-- The remainder with the sign of the divisor. -/
def modulo (x y : Double) : Double :=
  let r := remainder x y
  if r.isZero then (signedZero false).withSign y.isNegative
  else if needsShift r y then r.add y else r

/-- The quotient rounded to the floor. -/
def floorDivide (x y : Double) : Double :=
  let r := remainder x y
  let quotient := div (x.sub r) y
  let quotient :=
    if !r.isZero && needsShift r y then quotient.sub (ofFloat 1) else quotient
  if quotient.isZero then (signedZero false).withSign (div x y).isNegative
  else
    let floor := ofFloat quotient.toFloat.floor
    if (quotient.sub floor).toFloat > 0.5 then floor.add (ofFloat 1) else floor

end Double

namespace Number

/-- The double nearest to a number. -/
def toDouble : Number → Except Fault Double
  | int n =>
    match Double.ofInt? n with
    | some x => .ok x
    | none => .error .beyondDouble
  | float x => .ok x

/-- Whether a number is zero. -/
def isZero : Number → Bool
  | int n => n == 0
  | float x => x.isZero

/-- Applies an operation on doubles to two numbers. -/
def onDoubles (op : Double → Double → Double) (a b : Number) : Except Fault Number := do
  return float (op (← a.toDouble) (← b.toDouble))

/-- The sum of two numbers. -/
def add : Number → Number → Except Fault Number
  | int a, int b => .ok (int (a + b))
  | a, b => onDoubles Double.add a b

/-- The difference of two numbers. -/
def sub : Number → Number → Except Fault Number
  | int a, int b => .ok (int (a - b))
  | a, b => onDoubles Double.sub a b

/-- The product of two numbers. -/
def mul : Number → Number → Except Fault Number
  | int a, int b => .ok (int (a * b))
  | a, b => onDoubles Double.mul a b

/-- The quotient of two numbers, a double; that of two integers is rounded once. -/
def divide (a b : Number) : Except Fault Number :=
  if b.isZero then .error .divisionByZero
  else
    match a, b with
    | int a, int b =>
      let x := Double.ofRatio (decide (a < 0) != decide (b < 0)) a.natAbs b.natAbs
      if x.isFinite then .ok (float x) else .error .beyondDouble
    | a, b => onDoubles Double.div a b

/-- The quotient of two numbers rounded to the floor. -/
def floorDivide (a b : Number) : Except Fault Number :=
  if b.isZero then .error .divisionByZero
  else
    match a, b with
    | int a, int b => .ok (int (a.fdiv b))
    | a, b => onDoubles Double.floorDivide a b

/-- The remainder that goes with `floorDivide`. -/
def modulo (a b : Number) : Except Fault Number :=
  if b.isZero then .error .divisionByZero
  else
    match a, b with
    | int a, int b => .ok (int (a.fmod b))
    | a, b => onDoubles Double.modulo a b

/-- Whether a power of real numbers has no real value: the base is negative and the exponent is not
whole. -/
def hasComplexPower (x y : Double) : Bool :=
  x.isFinite && x.isNegative && !x.isZero && y.isFinite && !y.isIntegral

/-- A power of doubles. Zero has no power with a negative finite exponent, a negative base has real
powers for whole exponents only, and no finite operands may give an infinite power. -/
def realPower (x y : Double) : Except Fault Number :=
  if x.isZero && y.isNegative && !y.isZero && y.isFinite then .error .divisionByZero
  else if hasComplexPower x y then
    .error (.badOperands "**" "float" "float")
  else
    let p := Double.ofFloat (Float.pow x.toFloat y.toFloat)
    if p.isInfinite && x.isFinite && y.isFinite then .error .beyondDouble else .ok (float p)

/-- A power of numbers; an integer with a natural exponent stays an integer. -/
def power (a b : Number) : Except Fault Number :=
  match a, b with
  | int n, int k =>
    if 0 ≤ k then .ok (int (Int.pow n k.toNat))
    else do realPower (← a.toDouble) (← b.toDouble)
  | _, _ => do realPower (← a.toDouble) (← b.toDouble)

end Number

end Conduit
