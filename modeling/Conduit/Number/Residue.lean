import Conduit.Number.Basic

/-!
# Residues of numbers

Equal numbers have equal residues modulo a prime, be they integers or doubles. The items of a set of
numbers come in the order of their residues, as far as these are small.

* `Number.residue?` — the residue of a number;
* `Number.inPlaces` — things in the order of the places that their numbers give them.
-/

namespace Conduit.Number

/-- The modulus of residues, a prime. -/
def modulus : Nat := twoTo 61 - 1

/-- The residue of `n / 2 ^ k` with the sign of `n`. Two to the power of 61 is one modulo the prime,
so that division by a power of two is multiplication by another one. -/
def dyadicResidue (n : Int) (k : Nat) : Int :=
  let r : Nat := n.natAbs * twoTo ((61 - k % 61) % 61) % modulus
  if n < 0 then -(r : Int) else r

/-- The residue of a number. NaN has none, and minus one shares that of minus two. -/
def residue? : Number → Option Int
  | int n => some (evaded (dyadicResidue n 0))
  | float x =>
    if x.isNaN then none
    else if x.isInfinite then some (if x.isNegative then -314159 else 314159)
    else some (evaded (dyadicResidue x.numerator (-x.exponent).toNat))
where
  /-- Minus two in the place of minus one. -/
  evaded (r : Int) : Int := if r = -1 then -2 else r

/-- How many places there are for a number of things: the least of 8, 32, 128 and so on of which
less than three fifths are taken. `fuel` bounds the number of steps. -/
def placesFor (count : Nat) : Nat → Nat → Nat
  | 0, places => places
  | fuel + 1, places =>
    if 5 * count < 3 * (places - 1) then places else placesFor count fuel (4 * places)

/-- Things in the order of the places that their residues give them. They stay as they are when one
of them has none. -/
def inPlaces {α : Type} (residue? : α → Option Int) (things : List α) : List α :=
  let places : Int := placesFor things.length things.length 8
  let place (a : α) : Int := (residue? a).getD 0 % places
  if things.all fun a => (residue? a).isSome then
    things.mergeSort fun a b => decide (place a ≤ place b)
  else things

example : residue? (.int (-1)) = some (-2) ∧ residue? (.int modulus) = some 0
    ∧ residue? (.float (.ofFloat 0.5)) = some 1152921504606846976
    ∧ residue? (.float (.ofFloat 3)) = some 3 ∧ placesFor 5 5 8 = 32 := by decide +kernel

end Conduit.Number
