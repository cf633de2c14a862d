import Conduit.Number.Double

/-!
# Numbers

A number is an integer of any size or a double. Numbers of both sorts are compared by their exact
values, without rounding the integer first.
-/

namespace Conduit

/-- An integer of any size or a double. -/
inductive Number where
  /-- An integer. -/
  | int (n : Int)
  /-- A double. -/
  | float (x : Double)
deriving DecidableEq

namespace Number

/-- The exact order of two numbers; NaN is in order with nothing. -/
def compare? : Number → Number → Option Ordering
  | int a, int b => some (compare a b)
  | int a, float y => (y.compareInt? a).map Ordering.swap
  | float x, int b => x.compareInt? b
  | float x, float y => x.compare? y

/-- Whether two numbers have the same value. -/
def equals (a b : Number) : Bool := a.compare? b == some .eq

/-- Whether the first number has the smaller value. -/
def less (a b : Number) : Bool := a.compare? b == some .lt

example : (int 1).equals (float (Double.ofFloat 1)) = true
    ∧ (float (Double.ofFloat 9007199254740992)).less (int 9007199254740993) = true
    ∧ (float Double.nan).equals (float Double.nan) = false := by decide +kernel

end Number

end Conduit
