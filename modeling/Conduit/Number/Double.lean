/-!
# Double precision numbers

A `Double` is a binary64 number, kept as its 64 bits. Its magnitude is `mantissa * 2 ^ exponent`, so
comparison with an integer, truncation and reading from a ratio are exact integer arithmetic.

* `Double.ofRatio` — the nearest double to a ratio of naturals, a tie going to the even neighbour;
* `Double.ofDecimal` — the nearest double to `digits * 10 ^ power`;
* `Double.compareInt?`, `Double.compare?` — exact order, undefined on NaN;
* `Double.truncate?` — the integer part of a finite double.
-/

namespace Conduit

/-- A power of two. -/
def twoTo (n : Nat) : Nat := Nat.pow 2 n

/-- A power of ten. -/
def tenTo (n : Nat) : Nat := Nat.pow 10 n

/-- A binary64 number, kept as its bits. -/
structure Double where
  /-- Sign, biased exponent and fraction, from the highest bit down. -/
  bits : UInt64
deriving DecidableEq, Inhabited

namespace Double

/-- The bits without the sign. -/
def magnitudeBits (x : Double) : Nat := x.bits.toNat % twoTo 63

/-- Whether the sign bit is set. -/
def isNegative (x : Double) : Bool := decide (twoTo 63 ≤ x.bits.toNat)

/-- The magnitude bits of infinity: every larger magnitude is NaN. -/
def infinityBits : Nat := 0x7FF0000000000000

/-- Not a number. -/
def nan : Double := ⟨0x7FF8000000000000⟩

/-- Infinity of the given sign. -/
def infinity (negative : Bool) : Double :=
  if negative then ⟨0xFFF0000000000000⟩ else ⟨0x7FF0000000000000⟩

/-- Zero of the given sign. -/
def signedZero (negative : Bool) : Double :=
  if negative then ⟨0x8000000000000000⟩ else ⟨0⟩

/-- Whether this is not a number. -/
def isNaN (x : Double) : Bool := decide (infinityBits < x.magnitudeBits)

/-- Whether this is an infinity. -/
def isInfinite (x : Double) : Bool := x.magnitudeBits == infinityBits

/-- Whether this is neither an infinity nor NaN. -/
def isFinite (x : Double) : Bool := decide (x.magnitudeBits < infinityBits)

/-- Whether this is zero, of either sign. -/
def isZero (x : Double) : Bool := x.magnitudeBits == 0

/-- The biased exponent field. -/
def exponentField (x : Double) : Nat := x.magnitudeBits / twoTo 52

/-- The fraction field. -/
def fractionField (x : Double) : Nat := x.magnitudeBits % twoTo 52

/-- The integer `m` of the magnitude `m * 2 ^ q` of a finite double. -/
def mantissa (x : Double) : Nat :=
  if x.exponentField = 0 then x.fractionField else twoTo 52 + x.fractionField

/-- The exponent `q` of the magnitude `m * 2 ^ q` of a finite double. -/
def exponent (x : Double) : Int :=
  if x.exponentField = 0 then -1074 else (x.exponentField : Int) - 1075

/-- Whether the gap to the next smaller magnitude is half the gap to the next larger one. -/
def isNarrowBelow (x : Double) : Bool :=
  x.fractionField == 0 && decide (1 < x.exponentField)

/-- The machine number with these bits. -/
def toFloat (x : Double) : Float := Float.ofBits x.bits

/-- The double with the bits of a machine number. -/
def ofFloat (f : Float) : Double := if f.isNaN then nan else ⟨f.toBits⟩

/-- The nearest integer to `num / den`, a tie going to the even one. -/
def roundHalfEven (num den : Nat) : Nat :=
  let q := num / den
  let r := 2 * (num % den)
  if r < den then q
  else if den < r then q + 1
  else if q % 2 = 0 then q else q + 1

/-- Puts the sign in front of magnitude bits. -/
def ofMagnitude (negative : Bool) (magnitude : Nat) : Double :=
  if infinityBits ≤ magnitude then infinity negative
  else ⟨UInt64.ofNat (if negative then magnitude + twoTo 63 else magnitude)⟩

/-- The exponent of the unit in which `num / den` is rounded: the ratio lies between `2 ^ 52` and
`2 ^ 53` units, unless it is so small that the least unit is used. -/
def unitExponent (num den : Nat) : Int :=
  let guess : Int := (num.log2 : Int) - den.log2 - 52
  let exact := 
    if num * twoTo (-guess).toNat < twoTo 52 * (den * twoTo guess.toNat) then guess - 1 else guess
  max exact (-1074)

/-- The nearest double to `num / den` with the given sign; `den` must not be zero. A magnitude whose
rounded mantissa reaches `2 ^ 53` carries into the exponent by itself. -/
def ofRatio (negative : Bool) (num den : Nat) : Double :=
  if num = 0 then signedZero negative
  else
    let e := unitExponent num den
    let m := roundHalfEven (num * twoTo (-e).toNat) (den * twoTo e.toNat)
    ofMagnitude negative ((e + 1074).toNat * twoTo 52 + m)

/-- The nearest double to `digits * 10 ^ power`. Powers far outside the range are cut short: the
result is then infinite or zero whatever the digits are. -/
def ofDecimal (negative : Bool) (digits : Nat) (power : Int) : Double :=
  if digits = 0 then signedZero negative
  else if 400 < power then infinity negative
  else if power < -400 - (digits.log2 : Int) then signedZero negative
  else ofRatio negative (digits * tenTo power.toNat) (tenTo (-power).toNat)

/-- The nearest double to an integer, or `none` when it lies beyond the largest finite double. -/
def ofInt? (n : Int) : Option Double :=
  let x := ofRatio (decide (n < 0)) n.natAbs 1
  if x.isFinite then some x else none

/-- The integer part of a finite double, or `none` of NaN and the infinities. -/
def truncate? (x : Double) : Option Int :=
  if x.isFinite then
    let n : Nat := x.mantissa * twoTo x.exponent.toNat / twoTo (-x.exponent).toNat
    some (if x.isNegative then -(n : Int) else n)
  else none

/-- Whether a double is an integer. -/
def isIntegral (x : Double) : Bool :=
  x.isFinite && x.mantissa * twoTo x.exponent.toNat % twoTo (-x.exponent).toNat == 0

/-- The value of a finite double as an integer numerator over `2 ^ k`. -/
def numerator (x : Double) : Int :=
  let n : Nat := x.mantissa * twoTo x.exponent.toNat
  if x.isNegative then -(n : Int) else n

/-- The denominator that goes with `numerator`. -/
def denominator (x : Double) : Nat := twoTo (-x.exponent).toNat

/-- The exact order of a double and an integer; NaN is in order with nothing. -/
def compareInt? (x : Double) (n : Int) : Option Ordering :=
  if x.isNaN then none
  else if x.isInfinite then some (if x.isNegative then .lt else .gt)
  else some (compare x.numerator (n * x.denominator))

/-- The order of two doubles; NaN is in order with nothing and the two zeros are equal. -/
def compare? (x y : Double) : Option Ordering :=
  if x.isNaN || y.isNaN then none
  else
    let key (z : Double) : Int := if z.isNegative then -(z.magnitudeBits : Int) else z.magnitudeBits
    some (compare (key x) (key y))

/-- The double with the other sign. -/
def neg (x : Double) : Double :=
  if x.isNaN then x else ⟨x.bits ^^^ 0x8000000000000000⟩

example : ofDecimal false 1 (-1) = ofFloat 0.1
    ∧ ofDecimal false 9007199254740993 0 = ofFloat 9007199254740992
    ∧ ofDecimal true 5 (-324) = ⟨0x8000000000000001⟩ ∧ ofDecimal false 1 400 = infinity false := by
  decide +kernel

end Double

end Conduit
