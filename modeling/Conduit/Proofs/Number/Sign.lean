import Conduit.Number.Numeral
import Conduit.Proofs.Number.Rounding

/-!
# The sign of a double

Rounding looks at magnitudes only, so the sign can be put in front before or after it.

* `Double.neg_ofDecimal` — a decimal with the other sign gives the double with the other sign;
* `Double.signed_decimal` — a double from its magnitude and its sign.
-/

namespace Conduit

/-- A bit above all others is set by exclusive or. -/
theorem xor_two_pow {m k : Nat} (h : m < 2 ^ k) : m ^^^ 2 ^ k = m + 2 ^ k := by
  have hor := Nat.two_pow_add_eq_or_of_lt h 1
  rw [mul_one] at hor
  rw [Nat.add_comm, hor]
  refine Nat.eq_of_testBit_eq fun i => ?_
  rw [Nat.testBit_xor, Nat.testBit_or, Nat.testBit_two_pow]
  by_cases hi : k = i
  · subst hi
    simp [Nat.testBit_lt_two_pow h]
  · simp [hi]

namespace Double

theorem neg_infinity : (infinity false).neg = infinity true := by decide

theorem neg_signedZero : (signedZero false).neg = signedZero true := by decide

theorem neg_ofMagnitude (magnitude : Nat) :
    (ofMagnitude false magnitude).neg = ofMagnitude true magnitude := by
  rw [ofMagnitude, ofMagnitude]
  split
  · exact neg_infinity
  · next hless =>
    have hbound : magnitude < 2 ^ 63 := lt_trans (Nat.not_le.1 hless) (by decide)
    have hbits : (UInt64.ofNat magnitude).toNat = magnitude :=
      UInt64.toNat_ofNat_of_lt (lt_trans hbound (by norm_num))
    have hnan : isNaN ⟨UInt64.ofNat magnitude⟩ = false := by
      rw [isNaN, magnitudeBits, hbits, decide_eq_false_iff_not, twoTo_eq, Nat.mod_eq_of_lt hbound]
      omega
    rw [neg, if_neg Bool.false_ne_true, if_pos rfl, hnan, if_neg Bool.false_ne_true]
    have hmask : (0x8000000000000000 : UInt64).toNat = 2 ^ 63 := by decide
    have hwhole : (UInt64.ofNat (magnitude + twoTo 63)).toNat = magnitude + 2 ^ 63 :=
      UInt64.toNat_ofNat_of_lt (by rw [twoTo_eq, UInt64.size]; omega)
    refine congrArg Double.mk (UInt64.toNat_inj.1 ?_)
    rw [UInt64.toNat_xor, hbits, hmask, hwhole, xor_two_pow hbound]

theorem neg_ofRatio (num den : Nat) : (ofRatio false num den).neg = ofRatio true num den := by
  rw [ofRatio, ofRatio]
  split
  · exact neg_signedZero
  · exact neg_ofMagnitude _

/-- A decimal with the other sign gives the double with the other sign. -/
theorem neg_ofDecimal (digits : Nat) (power : Int) :
    (ofDecimal false digits power).neg = ofDecimal true digits power := by
  unfold ofDecimal
  split
  · exact neg_signedZero
  split
  · exact neg_infinity
  split
  · exact neg_signedZero
  · exact neg_ofRatio _ _

/-- The double of a sign and a magnitude. -/
def signed (negative : Bool) (x : Double) : Double := if negative then x.neg else x

theorem signed_decimal (negative : Bool) (whole fraction : List Nat) (power : Int) :
    signed negative (Numeral.decimal false whole fraction power) =
      Numeral.decimal negative whole fraction power := by
  cases negative with
  | false => rw [signed, if_neg Bool.false_ne_true]
  | true =>
    rw [signed, if_pos rfl, Numeral.decimal, Numeral.decimal]
    dsimp only
    rw [apply_ite neg, neg_ofDecimal, neg_ofDecimal]

end Double

end Conduit
