import Conduit.Number.Arithmetic
import Conduit.Number.Layout

/-!
# Complex numbers

A power of a negative number with an exponent that is not whole has no real value; it is a complex
number, a pair of doubles.

* `Double.hypotenuse` — the length of a pair of doubles, rounded once;
* `Complex.add`, `Complex.mul`, `Complex.divide?`, `Complex.power?` — arithmetic;
* `Complex.equals`, `Complex.equalsNumber`, `Complex.text` — comparison and text.

A whole exponent of up to a hundred is a product of factors; any other power goes through the length
and the angle of its base.
-/

namespace Conduit

namespace Double

/-- The integer part of the square root of `n`, given the integer `r` of its bits from the `k`-th
on. -/
def rootFrom (n : Nat) : Nat → Nat → Nat
  | 0, r => r
  | k + 1, r =>
    let next := r + twoTo k
    if next * next ≤ n then rootFrom n k next else rootFrom n k r

/-- The integer part of a square root. -/
def intRoot (n : Nat) : Nat := rootFrom n (n.log2 / 2 + 1) 0

/-- The length of a pair of doubles, rounded once. Half a unit far behind the last place stands for
what the integer root leaves over. -/
def hypotenuse (x y : Double) : Double :=
  if x.isInfinite || y.isInfinite then infinity false
  else if x.isNaN || y.isNaN then nan
  else
    let across := x.numerator * y.denominator
    let up := y.numerator * x.denominator
    let square := (across * across + up * up).natAbs * twoTo 256
    let root := intRoot square
    let doubled := if root * root = square then 2 * root else 2 * root + 1
    ofRatio false doubled (2 * twoTo 128 * (x.denominator * y.denominator))

example : hypotenuse (ofFloat 3) (ofFloat (-4)) = ofFloat 5
    ∧ hypotenuse (ofFloat 1) (ofFloat 1) = ofFloat 1.4142135623730951 := by decide +kernel

/-- The text of a double, without the places of a whole number. -/
def briefText (x : Double) : String :=
  match x.text.toList.reverse with
  | '0' :: '.' :: rest => String.ofList rest.reverse
  | _ => x.text

end Double

/-- A complex number. -/
structure Complex where
  /-- The real part. -/
  re : Double
  /-- The imaginary part. -/
  im : Double
deriving DecidableEq, Inhabited

namespace Complex

/-- The complex number of a double. -/
def ofDouble (x : Double) : Complex := ⟨x, Double.signedZero false⟩

/-- The complex number one. -/
def one : Complex := ofDouble (Double.ofFloat 1)

/-- Whether a complex number is zero. -/
def isZero (z : Complex) : Bool := z.re.isZero && z.im.isZero

/-- The sum of two complex numbers. -/
def add (a b : Complex) : Complex := ⟨a.re.add b.re, a.im.add b.im⟩

/-- The difference of two complex numbers. -/
def sub (a b : Complex) : Complex := ⟨a.re.sub b.re, a.im.sub b.im⟩

/-- The product of two complex numbers. -/
def mul (a b : Complex) : Complex :=
  ⟨(a.re.mul b.re).sub (a.im.mul b.im), (a.re.mul b.im).add (a.im.mul b.re)⟩

/-- The complex number with both signs changed. -/
def neg (z : Complex) : Complex := ⟨z.re.neg, z.im.neg⟩

/-- The quotient of two complex numbers, unless the divisor is zero. The parts of the divisor are
put in proportion to the larger of them first. -/
def divide? (a b : Complex) : Option Complex :=
  match (b.re.withSign false).compare? (b.im.withSign false) with
  | none => some ⟨Double.nan, Double.nan⟩
  | some .lt =>
    let ratio := b.re.div b.im
    let scale := (b.re.mul ratio).add b.im
    some ⟨((a.re.mul ratio).add a.im).div scale, ((a.im.mul ratio).sub a.re).div scale⟩
  | some _ =>
    if b.re.isZero then none
    else
      let ratio := b.im.div b.re
      let scale := b.re.add (b.im.mul ratio)
      some ⟨(a.re.add (a.im.mul ratio)).div scale, (a.im.sub (a.re.mul ratio)).div scale⟩

/-- The product of `found` and a number of factors `z`, by repeated squaring; `fuel` bounds the
number of squarings. -/
def timesUpTo : Nat → Nat → Complex → Complex → Complex
  | 0, _, found, _ => found
  | fuel + 1, count, found, z =>
    if count = 0 then found
    else timesUpTo fuel (count / 2) (if count % 2 = 1 then found.mul z else found) (z.mul z)

/-- The greatest whole exponent for which factors are multiplied. -/
def factorLimit : Nat := 100

/-- The whole number that an exponent is, when factors are multiplied for it. -/
def factors? (z : Complex) : Option Int :=
  if z.im.isZero && z.re.isIntegral then
    z.re.truncate?.filter fun n => decide (n.natAbs ≤ factorLimit)
  else none

/-- The power of a nonzero number through its length and its angle. -/
def polarPower (a b : Complex) : Complex :=
  let length := (a.re.hypotenuse a.im).toFloat
  let angle := Float.atan2 a.im.toFloat a.re.toFloat
  let size := Float.pow length b.re.toFloat
  let phase := angle * b.re.toFloat
  let (size, phase) :=
    if b.im.isZero then (size, phase)
    else
      (size * Float.exp (-angle * b.im.toFloat), phase + b.im.toFloat * Float.log length)
  ⟨.ofFloat (size * Float.cos phase), .ofFloat (size * Float.sin phase)⟩

/-- A power before its size is looked at. Zero has powers with positive real exponents only. -/
def unboundedPower? (a b : Complex) : Option Complex :=
  match b.factors? with
  | some n =>
    let product := timesUpTo 7 n.natAbs one a
    if 0 < n then some product else one.divide? product
  | none =>
    if b.isZero then some one
    else if a.isZero then
      if b.im.isZero && !(b.re.isNegative && !b.re.isNaN) then
        some (ofDouble (Double.signedZero false))
      else none
    else some (a.polarPower b)

/-- A power, unless it is infinite. -/
def power? (a b : Complex) : Option Complex :=
  (a.unboundedPower? b).filter fun z => !(z.re.isInfinite || z.im.isInfinite)

/-- Whether two complex numbers have the same value. -/
def equals (a b : Complex) : Bool :=
  a.re.compare? b.re == some .eq && a.im.compare? b.im == some .eq

/-- Whether a complex number has the value of a real one. -/
def equalsNumber (z : Complex) (n : Number) : Bool := z.im.isZero && (Number.float z.re).equals n

/-- The text of a complex number. A real part of zero is left out. -/
def text (z : Complex) : String :=
  if z.re.isZero && !z.re.isNegative then z.im.briefText ++ "j"
  else
    "(" ++ z.re.briefText ++ (if z.im.isNegative && !z.im.isNaN then "" else "+")
      ++ z.im.briefText ++ "j)"

example : (⟨Double.ofFloat 1, Double.ofFloat (-2)⟩ : Complex).text = "(1-2j)"
    ∧ (⟨Double.ofFloat 0, Double.ofFloat 0.5⟩ : Complex).text = "0.5j" := by decide +kernel

end Complex

namespace Number

/-- The complex number of a number, unless it is an integer beyond the largest double. -/
def toComplex? (n : Number) : Option Complex := n.toDouble.toOption.map Complex.ofDouble

end Number

end Conduit
