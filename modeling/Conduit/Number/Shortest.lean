import Conduit.Number.Double

/-!
# The shortest decimal that reads back

Every finite nonzero double stands for an interval of reals, those that are nearer to it than to its
neighbours. `Double.shortest` is the decimal with the fewest digits in that interval and, of those
with equally few digits, the nearest to the double.

The search runs over the decimal grids from coarse to fine. On each grid the only candidates are the
two neighbours of the double: if any point of the grid lies in the interval, so does one of them.
-/

namespace Conduit

/-- The number `digits * 10 ^ power`. -/
structure Decimal where
  /-- The significant digits as one natural number. -/
  digits : Nat
  /-- The power of ten of the last digit. -/
  power : Int
deriving DecidableEq, Repr

namespace Decimal

/-- Compares `d * 10 ^ i` with `n * 2 ^ j` exactly. -/
def compareBinary (d : Nat) (i : Int) (n : Nat) (j : Int) : Ordering :=
  compare (d * tenTo i.toNat * twoTo (-j).toNat) (n * twoTo j.toNat * tenTo (-i).toNat)

/-- Moves the zeros at the end of `digits` into the power, at most `fuel` of them. -/
def stripZeros : Nat → Decimal → Decimal
  | 0, d => d
  | fuel + 1, d =>
    if d.digits % 10 = 0 ∧ d.digits ≠ 0 then stripZeros fuel ⟨d.digits / 10, d.power + 1⟩ else d

end Decimal

namespace Double

open Decimal

/-- Whether a decimal lies in the interval of reals that round to the magnitude of `x`. The ends
belong to it when the mantissa is even, since a tie goes to the even neighbour. -/
def roundsFrom (x : Double) (d : Decimal) : Bool :=
  let below := 4 * x.mantissa - (if x.isNarrowBelow then 1 else 2)
  let above := 4 * x.mantissa + 2
  let closed := x.mantissa % 2 == 0
  let atLow := compareBinary d.digits d.power below (x.exponent - 2)
  let atHigh := compareBinary d.digits d.power above (x.exponent - 2)
  (atLow == .gt || closed && atLow == .eq) && (atHigh == .lt || closed && atHigh == .eq)

/-- The least `k` among the four tried for which the magnitude of `x` is below `10 ^ k`. The first
guess comes from the binary logarithm and is never more than two off. -/
def decimalExponent (x : Double) : Int :=
  let guess : Int := ((x.mantissa.log2 : Int) + x.exponent) * 30103 / 100000
  let isBelow (k : Int) : Bool := compareBinary 1 k x.mantissa x.exponent == .gt
  if isBelow (guess - 1) then guess - 1
  else if isBelow guess then guess
  else if isBelow (guess + 1) then guess + 1
  else guess + 2

/-- The part of the magnitude of `x` in whole units of `10 ^ power`, rounded down. -/
def wholeUnits (x : Double) (power : Int) : Nat :=
  x.mantissa * twoTo x.exponent.toNat * tenTo (-power).toNat
    / (twoTo (-x.exponent).toNat * tenTo power.toNat)

/-- The better of the two neighbours of `x` on the grid of multiples of `10 ^ power`, if one of them
reads back: the nearer one, and of two equally near ones the even one. -/
def onGrid? (x : Double) (power : Int) : Option Decimal :=
  let low := x.wholeUnits power
  let down : Decimal := ⟨low, power⟩
  let up : Decimal := ⟨low + 1, power⟩
  match x.roundsFrom down, x.roundsFrom up with
  | false, false => none
  | true, false => some down
  | false, true => some up
  | true, true =>
    match compareBinary (2 * low + 1) power (2 * x.mantissa) x.exponent with
    | .gt => some down
    | .lt => some up
    | .eq => some (if low % 2 = 0 then down else up)

/-- Tries the grids with `n`, `n + 1`, … digits, `tries` of them. -/
def search (x : Double) (k : Int) : Nat → Nat → Option Decimal
  | 0, _ => none
  | tries + 1, n =>
    match x.onGrid? (k - n) with
    | some d => some d
    | none => search x k tries (n + 1)

/-- The shortest decimal that reads back as the magnitude of a finite nonzero double. Seventeen
digits always suffice; should the search end empty the exact value is given. -/
def shortest (x : Double) : Decimal :=
  match x.search x.decimalExponent 17 1 with
  | some d => stripZeros 20 d
  | none =>
    ⟨x.mantissa * twoTo x.exponent.toNat * Nat.pow 5 (-x.exponent).toNat,
      -((-x.exponent).toNat : Int)⟩

example : (ofFloat 0.1).shortest = ⟨1, -1⟩ ∧ (ofFloat 5e-324).shortest = ⟨5, -324⟩
    ∧ (ofFloat 2.98023223876953125e-8).shortest = ⟨29802322387695312, -24⟩
    ∧ (ofFloat 1e23).shortest = ⟨1, 23⟩ := by decide +kernel

end Double

end Conduit
