import Conduit.Number.Basic
import Conduit.Proofs.Number.Rounding

/-!
# The exact value of a number

A number is an infinity or a rational number, unless it is NaN, and two numbers are equal exactly if
they are the same infinity or the same rational number. So equality of numbers is transitive, also
from integers to doubles and back.

* `Double.exact` — the rational number that a finite double is;
* `Number.meaning?` — what a number is;
* `Number.equals_iff`, `Number.equals_trans` — equality of numbers.
-/

namespace Conduit

namespace Double

/-- The rational number that a finite double is. -/
def exact (x : Double) : ℚ := x.numerator / x.denominator

/-- The magnitude of a double with its sign, by which doubles are compared. -/
def signedBits (x : Double) : Int :=
  if x.isNegative then -(x.magnitudeBits : Int) else x.magnitudeBits

theorem compare?_eq_some_eq {x y : Double} :
    x.compare? y = some .eq ↔
      x.isNaN = false ∧ y.isNaN = false ∧ x.signedBits = y.signedBits := by
  rw [compare?]
  cases x.isNaN <;> cases y.isNaN <;> simp [signedBits]

/-- The rational number of a double, from its mantissa and its exponent. -/
theorem exact_eq (x : Double) :
    x.exact = (if x.isNegative then -1 else 1) * (x.mantissa * 2 ^ x.exponent) := by
  rw [exact, numerator, denominator, zpow_eq_div 2 x.exponent two_ne_zero]
  cases x.isNegative <;> simp [mul_div_assoc, neg_div]

theorem magnitude_eq_ratio (x : Double) :
    (x.mantissa * 2 ^ x.exponent : ℚ) =
      (x.mantissa * 2 ^ x.exponent.toNat : ℕ) / (2 ^ (-x.exponent).toNat : ℕ) := by
  rw [zpow_eq_div 2 x.exponent two_ne_zero]
  push_cast
  rw [mul_div_assoc]

/-- A double that is an integer has this for its rational number. -/
theorem compareInt?_eq_some_eq {x : Double} {n : Int} :
    x.compareInt? n = some .eq ↔ x.isNaN = false ∧ x.isInfinite = false ∧ x.exact = n := by
  have hden : (x.denominator : ℚ) ≠ 0 := by
    rw [denominator, twoTo_eq]
    positivity
  have hvalue : x.exact = n ↔ x.numerator = n * x.denominator := by
    rw [exact, div_eq_iff hden]
    exact_mod_cast Iff.rfl
  rw [hvalue, compareInt?]
  cases x.isNaN <;> cases x.isInfinite <;> cases x.isNegative <;> simp

/-- A double has the bits of its magnitude and one for its sign. -/
theorem toNat_bits (x : Double) :
    x.bits.toNat = x.magnitudeBits + if x.isNegative then 2 ^ 63 else 0 := by
  have hbits : x.bits.toNat < 2 ^ 64 := x.bits.toNat_lt
  have hmagnitude : x.magnitudeBits = x.bits.toNat % 2 ^ 63 := rfl
  simp only [isNegative_iff]
  split <;> omega

/-- A double that is not zero is determined by its magnitude with its sign. -/
theorem eq_of_signedBits_eq {x y : Double} (h : x.signedBits = y.signedBits)
    (nonzero : x.magnitudeBits ≠ 0) : x = y := by
  have hx := toNat_bits x
  have hy := toNat_bits y
  rw [signedBits, signedBits] at h
  have hbits : x.bits.toNat = y.bits.toNat := by
    cases hnx : x.isNegative <;> cases hny : y.isNegative <;> simp [hnx, hny] at h hx hy <;> omega
  cases x
  cases y
  exact congrArg Double.mk (UInt64.toNat_inj.1 hbits)

/-- A finite double is zero exactly if its magnitude is. -/
theorem exact_eq_zero_iff {x : Double} (finite : x.isFinite = true) :
    x.exact = 0 ↔ x.magnitudeBits = 0 := by
  have hmantissa : x.mantissa = 0 ↔ x.magnitudeBits = 0 := by
    rw [← isZero_iff finite, isZero, beq_iff_eq]
  have hpower : (2 : ℚ) ^ x.exponent ≠ 0 := by positivity
  rw [← hmantissa, exact_eq]
  cases x.isNegative <;> simp [hpower]

theorem signedBits_eq_zero_iff {x : Double} : x.signedBits = 0 ↔ x.magnitudeBits = 0 := by
  rw [signedBits]
  split <;> omega

/-- A finite double that is not zero is determined by the rational number that it is. -/
theorem eq_of_exact_eq {x y : Double} (finite : x.isFinite = true) (finite' : y.isFinite = true)
    (nonzero : x.exact ≠ 0) (h : x.exact = y.exact) : x = y := by
  have hmantissa : ∀ {z : Double}, z.exact ≠ 0 → z.mantissa ≠ 0 := by
    intro z hz hzero
    exact hz (by rw [exact_eq, hzero]; simp)
  have hx := hmantissa nonzero
  have hy := hmantissa (h ▸ nonzero)
  have hxpos : (0 : ℚ) < x.mantissa * 2 ^ x.exponent := by
    have := Nat.pos_of_ne_zero hx
    positivity
  have hypos : (0 : ℚ) < y.mantissa * 2 ^ y.exponent := by
    have := Nat.pos_of_ne_zero hy
    positivity
  rw [exact_eq, exact_eq] at h
  have hsign : x.isNegative = y.isNegative := by
    cases hnx : x.isNegative <;> cases hny : y.isNegative <;> simp [hnx, hny] at h ⊢ <;> linarith
  have hmagnitude : (x.mantissa * 2 ^ x.exponent : ℚ) = y.mantissa * 2 ^ y.exponent := by
    rw [hsign] at h
    exact mul_left_cancel₀ (by split <;> norm_num) h
  -- both are the nearest double to the one magnitude
  have hden : 0 < 2 ^ (-x.exponent).toNat := by positivity
  have hself := attracts_self x
  have hother := attracts_self y
  rw [← hmagnitude] at hother
  rw [magnitude_eq_ratio] at hself hother
  rw [← ofRatio_eq finite hx hden hself, hsign, ofRatio_eq finite' hy hden hother]

/-- Finite doubles are the same rational number exactly if they are compared as equal. -/
theorem exact_eq_iff {x y : Double} (finite : x.isFinite = true) (finite' : y.isFinite = true) :
    x.exact = y.exact ↔ x.signedBits = y.signedBits := by
  by_cases zero : x.exact = 0
  · rw [zero, eq_comm, exact_eq_zero_iff finite', ← signedBits_eq_zero_iff,
      signedBits_eq_zero_iff.2 ((exact_eq_zero_iff finite).1 zero), eq_comm]
  · constructor
    · intro h
      rw [eq_of_exact_eq finite finite' zero h]
    · intro h
      rw [eq_of_signedBits_eq h ((exact_eq_zero_iff finite).not.1 zero)]

/-- A double is NaN, an infinity or finite. -/
theorem isFinite_eq (x : Double) : x.isFinite = (!x.isNaN && !x.isInfinite) := by
  rw [Bool.eq_iff_iff]
  simp only [isFinite, isNaN, isInfinite, Bool.and_eq_true, Bool.not_eq_true', decide_eq_true_eq,
    decide_eq_false_iff_not, beq_eq_false_iff_ne]
  omega

end Double

namespace Number

/-- What a number is: an infinity, of which the sign is given, or a rational number, unless it is
NaN. -/
def meaning? : Number → Option (Bool ⊕ ℚ)
  | int n => some (.inr n)
  | float x =>
    if x.isNaN then none else if x.isInfinite then some (.inl x.isNegative) else some (.inr x.exact)

/-- A double is NaN, an infinity or a rational number. -/
theorem meaning?_float_cases (x : Double) :
    (x.isNaN = true ∧ (float x).meaning? = none) ∨
      (x.isNaN = false ∧ x.isInfinite = true ∧ (float x).meaning? = some (.inl x.isNegative)) ∨
      (x.isNaN = false ∧ x.isInfinite = false ∧ x.isFinite = true ∧
        (float x).meaning? = some (.inr x.exact)) := by
  rw [Double.isFinite_eq, meaning?]
  cases x.isNaN <;> cases x.isInfinite <;> simp

theorem signedBits_of_isInfinite {x : Double} (infinite : x.isInfinite = true) :
    x.signedBits = if x.isNegative then -(Double.infinityBits : Int) else Double.infinityBits := by
  rw [Double.signedBits, beq_iff_eq.1 infinite]

/-- An infinity is beyond every finite double. -/
theorem signedBits_ne {x y : Double} (infinite : x.isInfinite = true) (finite : y.isFinite = true) :
    x.signedBits ≠ y.signedBits := by
  rw [Double.isInfinite, beq_iff_eq] at infinite
  rw [Double.isFinite, decide_eq_true_eq] at finite
  rw [Double.signedBits, Double.signedBits]
  split <;> split <;> omega

/-- Two doubles are compared as equal exactly if they are the same. -/
theorem equals_float_iff {x y : Double} :
    (float x).equals (float y) = true ↔
      ∃ v, (float x).meaning? = some v ∧ (float y).meaning? = some v := by
  rw [equals, beq_iff_eq, compare?, Double.compare?_eq_some_eq]
  rcases meaning?_float_cases x with ⟨hx, vx⟩ | ⟨hx, ix, vx⟩ | ⟨hx, ix, fx, vx⟩ <;>
    rcases meaning?_float_cases y with ⟨hy, vy⟩ | ⟨hy, iy, vy⟩ | ⟨hy, iy, fy, vy⟩ <;>
    simp [hx, hy, vx, vy]
  · rw [signedBits_of_isInfinite ix, signedBits_of_isInfinite iy]
    cases x.isNegative <;> cases y.isNegative <;> decide
  · exact signedBits_ne ix fy
  · exact (signedBits_ne iy fx).symm
  · rw [eq_comm, ← Double.exact_eq_iff fy fx]

/-- Two numbers are equal exactly if they are the same infinity or the same rational number. -/
theorem equals_iff {a b : Number} :
    a.equals b = true ↔ ∃ v, a.meaning? = some v ∧ b.meaning? = some v := by
  match a, b with
  | int a, int b => simpa [equals, compare?, meaning?] using eq_comm
  | int a, float y =>
    have hswap : (y.compareInt? a).map Ordering.swap = some .eq ↔ y.compareInt? a = some .eq := by
      cases y.compareInt? a with
      | none => simp
      | some order => cases order <;> simp
    rw [equals, beq_iff_eq, compare?, hswap, Double.compareInt?_eq_some_eq]
    rcases meaning?_float_cases y with ⟨hy, vy⟩ | ⟨hy, iy, vy⟩ | ⟨hy, iy, fy, vy⟩
    · simp [hy, vy]
    · simp [hy, iy, meaning?]
    · simp [hy, iy, meaning?]
  | float x, int b =>
    rw [equals, beq_iff_eq, compare?, Double.compareInt?_eq_some_eq]
    rcases meaning?_float_cases x with ⟨hx, vx⟩ | ⟨hx, ix, vx⟩ | ⟨hx, ix, fx, vx⟩
    · simp [hx, vx]
    · simp [hx, ix, meaning?]
    · simpa [hx, ix, meaning?] using eq_comm
  | float x, float y => exact equals_float_iff

/-- Equality of numbers is transitive. -/
theorem equals_trans {a b c : Number} (hab : a.equals b = true) (hbc : b.equals c = true) :
    a.equals c = true := by
  obtain ⟨v, ha, hb⟩ := equals_iff.1 hab
  obtain ⟨w, hb', hc⟩ := equals_iff.1 hbc
  obtain rfl : v = w := Option.some.inj (hb.symm.trans hb')
  exact equals_iff.2 ⟨v, ha, hc⟩

end Number

end Conduit
