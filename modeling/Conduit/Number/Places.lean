import Conduit.Number.Layout

/-!
# Decimals with a given number of digits

The text of the magnitude of a finite double, rounded to so many digits: a decimal halfway between
two others goes to the even one.

* `Double.fixedText` — with a number of digits after the point;
* `Double.scientificText` — with one digit before the point and an exponent;
* `Double.generalText` — the shorter way for a number of digits, without zeros at the end.
-/

namespace Conduit.Double

/-- The magnitude of a finite double in units of `10 ^ power`, rounded. -/
def roundedUnits (x : Double) (power : Int) : Nat :=
  roundHalfEven (x.mantissa * twoTo x.exponent.toNat * tenTo (-power).toNat)
    (twoTo (-x.exponent).toNat * tenTo power.toNat)

/-- The digits of a natural number, with zeros before them up to a width. -/
def paddedDigits (width n : Nat) : List Char :=
  let ds := Nat.toDigits 10 n
  List.replicate (width - ds.length) '0' ++ ds

/-- Digits with a point before the last `places` of them; without places the point is written only
if it is kept. -/
def withPoint (places : Nat) (keepPoint : Bool) (digits : List Char) : List Char :=
  if places = 0 && !keepPoint then digits
  else digits.take (digits.length - places) ++ '.' :: digits.drop (digits.length - places)

/-- The magnitude with `places` digits after the point. -/
def fixedText (x : Double) (places : Nat) (keepPoint : Bool) : List Char :=
  withPoint places keepPoint (paddedDigits (places + 1) (x.roundedUnits (-(places : Int))))

/-- The first digit of the magnitude and `places` more, with the exponent of the first one. -/
def leadingDigits (x : Double) (places : Nat) : Nat × Int :=
  if x.isZero then (0, 0)
  else
    let e := x.decimalExponent - 1
    let n := x.roundedUnits (e - places)
    if n < tenTo (places + 1) then (n, e) else (n / 10, e + 1)

/-- The text of an exponent, with a sign and two digits at least. -/
def exponentText (e : Int) : List Char := (NumberStyle.plain.exponentText e).toList

/-- The magnitude with one digit before the point and `places` after it. -/
def scientificText (x : Double) (places : Nat) (keepPoint : Bool) : List Char :=
  let (n, e) := x.leadingDigits places
  withPoint places keepPoint (paddedDigits (places + 1) n) ++ exponentText e

/-- A decimal without the zeros at its end, and without the point if nothing is left behind it. -/
def trimZeros (s : List Char) : List Char :=
  if s.contains '.' then
    match s.reverse.dropWhile (· = '0') with
    | '.' :: rest => rest.reverse
    | rest => rest.reverse
  else s

/-- The magnitude with `count` digits in all, positional from `10 ^ -4` on as far as the digits
reach; the zeros at the end are kept on demand. -/
def generalText (x : Double) (count : Nat) (keepZeros : Bool) : List Char :=
  let places := count - 1
  let (n, e) := x.leadingDigits places
  let trim (s : List Char) := if keepZeros then s else trimZeros s
  if -4 ≤ e ∧ e ≤ places then trim (x.fixedText (places - e).toNat keepZeros)
  else
    trim (withPoint places keepZeros (paddedDigits (places + 1) n)) ++ exponentText e

example : (ofFloat 2.5).fixedText 0 false = ['2']
    ∧ (ofFloat 0.125).fixedText 2 false = "0.12".toList
    ∧ (ofFloat 999.96).scientificText 2 false = "1.00e+03".toList
    ∧ (ofFloat 100000).generalText 6 false = "100000".toList
    ∧ (ofFloat 1e-5).generalText 6 false = "1e-05".toList := by decide +kernel

end Conduit.Double
