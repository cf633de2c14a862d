import Conduit.Number.Shortest

/-!
# How a number is written

The digits of a double are chosen by `Double.shortest`; a `NumberStyle` holds the decisions that are
left: which numbers are written positionally, how an exponent looks and what stands for infinity and
NaN. The library writes numbers in two styles: `NumberStyle.plain`, used in texts and in JSON, and
`NumberStyle.stored`, used in the files of a definition store.
-/

namespace Conduit

/-- The decisions that turn digits into text. -/
structure NumberStyle where
  /-- The least exponent of the leading digit that is written positionally. -/
  plainFrom : Int
  /-- The least exponent of the leading digit that is written with an exponent again. -/
  plainBelow : Int
  /-- Whether a positive exponent has a plus sign. -/
  exponentPlus : Bool
  /-- The least number of digits of an exponent. -/
  exponentWidth : Nat
  /-- What stands for NaN. -/
  nan : String
  /-- What stands for positive infinity. -/
  infinity : String
  /-- What stands for negative infinity. -/
  negativeInfinity : String

namespace NumberStyle

/-- Positional from `10 ^ -4` to below `10 ^ 16`; otherwise a signed exponent of two digits. -/
def plain : NumberStyle where
  plainFrom := -4
  plainBelow := 16
  exponentPlus := true
  exponentWidth := 2
  nan := "nan"
  infinity := "inf"
  negativeInfinity := "-inf"

/-- As `plain`, with the names that JSON readers accept for the special values. -/
def json : NumberStyle :=
  { plain with nan := "NaN", infinity := "Infinity", negativeInfinity := "-Infinity" }

/-- Positional from `10 ^ -5` to below `10 ^ 16`; otherwise a bare exponent. The special values have
no number and are stored as null. -/
def stored : NumberStyle where
  plainFrom := -5
  plainBelow := 16
  exponentPlus := false
  exponentWidth := 1
  nan := "null"
  infinity := "null"
  negativeInfinity := "null"

/-- The text of an exponent. -/
def exponentText (style : NumberStyle) (e : Int) : String :=
  let digits := toString e.natAbs
  let sign := if e < 0 then "-" else if style.exponentPlus then "+" else ""
  "e" ++ sign ++ "".pushn '0' (style.exponentWidth - digits.length) ++ digits

/-- The text of a decimal with at least one nonzero digit. -/
def decimalText (style : NumberStyle) (d : Decimal) : String :=
  let digits := toString d.digits
  let count := digits.length
  let e : Int := d.power + count - 1
  if style.plainFrom ≤ e ∧ e < style.plainBelow then
    if e < 0 then "0." ++ "".pushn '0' (-e - 1).toNat ++ digits
    else if d.power < 0 then
      String.ofList (digits.toList.take (e.toNat + 1)) ++ "."
        ++ String.ofList (digits.toList.drop (e.toNat + 1))
    else digits ++ "".pushn '0' d.power.toNat ++ ".0"
  else
    let tail := digits.toList.drop 1
    String.ofList (digits.toList.take 1)
      ++ (if tail.isEmpty then "" else "." ++ String.ofList tail) ++ style.exponentText e

/-- The text of a double. -/
def text (style : NumberStyle) (x : Double) : String :=
  if x.isNaN then style.nan
  else if x.isInfinite then if x.isNegative then style.negativeInfinity else style.infinity
  else
    (if x.isNegative then "-" else "")
      ++ (if x.isZero then "0.0" else style.decimalText x.shortest)

end NumberStyle

/-- The text of a double in the plain style. -/
def Double.text (x : Double) : String := NumberStyle.plain.text x

example : (Double.ofFloat 1e16).text = "1e+16" ∧ (Double.ofFloat 0.0001).text = "0.0001"
    ∧ (Double.ofFloat 1.5e-7).text = "1.5e-07" ∧ (Double.ofFloat 1000000).text = "1000000.0" := by
  decide +kernel

end Conduit
