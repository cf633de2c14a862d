import Conduit.Number.Double
import Mathlib.Algebra.Order.Field.Power
import Mathlib.Data.Nat.Log
import Mathlib.Data.Rat.Cast.Order
import Mathlib.Tactic.Linarith
import Mathlib.Tactic.Positivity
import Mathlib.Tactic.Ring
import Mathlib.Tactic.FieldSimp

/-!
# Rounding to the nearest double

Every finite nonzero double is the nearest one to each number of an interval around it, and reading
any ratio or decimal in the interval gives the double.

* `Double.Attracts` — a number is in the interval of a double;
* `Double.ofRatio_eq` — the nearest double to a ratio in the interval;
* `Double.ofInt?_eq_none_iff` — the integers beyond every double;
* `Double.ofDecimal_eq` — the nearest double to a decimal in the interval.
-/

namespace Conduit.Double

/-! ## The parts of a double -/

@[simp] theorem twoTo_eq (n : Nat) : twoTo n = 2 ^ n := rfl

@[simp] theorem tenTo_eq (n : Nat) : tenTo n = 10 ^ n := rfl

/-- What the mantissa and the exponent of a finite double can be. -/
structure Parts (x : Double) : Prop where
  /-- A mantissa has 53 bits. -/
  mantissa_lt : x.mantissa < 2 ^ 53
  /-- There is a least exponent. -/
  least : -1074 ≤ x.exponent
  /-- There is a greatest exponent. -/
  greatest : x.exponent ≤ 971
  /-- Above the least exponent the mantissa has its highest bit. -/
  full : x.exponent = -1074 ∨ 2 ^ 52 ≤ x.mantissa
  /-- The gap below is narrow where the mantissa is least and the exponent is not. -/
  narrow : x.isNarrowBelow = true ↔ x.mantissa = 2 ^ 52 ∧ -1074 < x.exponent
  /-- The bits count the doubles from zero on. -/
  bits : x.magnitudeBits = (x.exponent + 1074).toNat * 2 ^ 52 + x.mantissa

theorem isFinite_iff {x : Double} : x.isFinite = true ↔ x.magnitudeBits < 2047 * 2 ^ 52 := by
  rw [isFinite, decide_eq_true_eq]
  rfl

theorem isNegative_iff {x : Double} : x.isNegative = true ↔ 2 ^ 63 ≤ x.bits.toNat := by
  rw [isNegative, decide_eq_true_eq]
  rfl

theorem parts_of_isFinite {x : Double} (h : x.isFinite = true) : Parts x := by
  have hsplit : x.magnitudeBits = 2 ^ 52 * x.exponentField + x.fractionField := by
    rw [exponentField, fractionField, twoTo_eq]
    exact (Nat.div_add_mod _ _).symm
  have hfraction : x.fractionField < 2 ^ 52 := Nat.mod_lt _ (by decide)
  have hfield : x.exponentField < 2047 := by
    have hless := isFinite_iff.1 h
    omega
  constructor
  all_goals
    simp only [mantissa, exponent, isNarrowBelow, twoTo_eq, Bool.and_eq_true, beq_iff_eq,
      decide_eq_true_eq]
    split
  all_goals omega

/-- Zero is the double whose mantissa is zero. -/
theorem isZero_iff {x : Double} (h : x.isFinite = true) : x.isZero = true ↔ x.mantissa = 0 := by
  have parts := parts_of_isFinite h
  have hbits := parts.bits
  have hleast := parts.least
  have hfull := parts.full
  rw [isZero, beq_iff_eq]
  omega

/-- A double is made of its sign and its magnitude. -/
theorem ofMagnitude_magnitudeBits {x : Double} (h : x.isFinite = true) :
    ofMagnitude x.isNegative x.magnitudeBits = x := by
  have hless : ¬ infinityBits ≤ x.magnitudeBits := Nat.not_le.2 (isFinite_iff.1 h)
  have hbits : x.bits.toNat < 2 ^ 64 := x.bits.toNat_lt
  have hmagnitude : x.magnitudeBits = x.bits.toNat % 2 ^ 63 := rfl
  have hwhole : (if x.isNegative = true then x.magnitudeBits + twoTo 63 else x.magnitudeBits) =
      x.bits.toNat := by
    simp only [isNegative_iff, twoTo_eq]
    split <;> omega
  rw [ofMagnitude, if_neg hless, hwhole, UInt64.ofNat_toNat]

/-! ## The interval of a double -/

/-- The lower end of the numbers that round to the magnitude of a double. -/
def lowEnd (x : Double) : ℚ :=
  (4 * x.mantissa - if x.isNarrowBelow then 1 else 2) * 2 ^ (x.exponent - 2)

/-- The upper end of the numbers that round to the magnitude of a double. -/
def highEnd (x : Double) : ℚ := (4 * x.mantissa + 2) * 2 ^ (x.exponent - 2)

/-- A number rounds to the magnitude of a double: it is between the ends, or at an end of an even
mantissa. -/
structure Attracts (x : Double) (q : ℚ) : Prop where
  /-- It is not below. -/
  low : x.lowEnd < q ∨ x.mantissa % 2 = 0 ∧ x.lowEnd = q
  /-- It is not above. -/
  high : q < x.highEnd ∨ x.mantissa % 2 = 0 ∧ q = x.highEnd

theorem Attracts.low_le {x : Double} {q : ℚ} (h : x.Attracts q) : x.lowEnd ≤ q := by
  rcases h.low with hlt | ⟨-, heq⟩
  · exact hlt.le
  · exact heq.le

theorem Attracts.le_high {x : Double} {q : ℚ} (h : x.Attracts q) : q ≤ x.highEnd := by
  rcases h.high with hlt | ⟨-, heq⟩
  · exact hlt.le
  · exact heq.le

/-- A double rounds to itself. -/
theorem attracts_self (x : Double) : x.Attracts (x.mantissa * 2 ^ x.exponent) := by
  have hpower : (2 : ℚ) ^ x.exponent = 4 * 2 ^ (x.exponent - 2) := by
    rw [zpow_sub₀ two_ne_zero]
    norm_num
    ring
  have hpos : (0 : ℚ) < 2 ^ (x.exponent - 2) := by positivity
  constructor <;> left
  · rw [lowEnd, hpower]
    split <;> nlinarith
  · rw [highEnd, hpower]
    nlinarith

/-! ## Rounding -/

/-- A power is a ratio of powers of natural numbers. -/
theorem zpow_eq_div (b : ℚ) (i : ℤ) (hb : b ≠ 0) : b ^ i = b ^ i.toNat / b ^ (-i).toNat := by
  rw [eq_div_iff (pow_ne_zero _ hb), ← zpow_natCast b (-i).toNat, ← zpow_add₀ hb,
    ← zpow_natCast b i.toNat]
  congr 1
  omega

/-- Rounding a ratio that is nearest to an integer gives the integer. -/
theorem roundHalfEven_eq {num den m : Nat} (hden : 0 < den)
    (low : 2 * m * den < 2 * num + den ∨ m % 2 = 0 ∧ 2 * m * den = 2 * num + den)
    (high : 2 * num < (2 * m + 1) * den ∨ m % 2 = 0 ∧ 2 * num = (2 * m + 1) * den) :
    roundHalfEven num den = m := by
  have hdiv : den * (num / den) + num % den = num := Nat.div_add_mod num den
  have hmod : num % den < den := Nat.mod_lt _ hden
  rw [roundHalfEven]
  generalize num / den = q at *
  generalize num % den = r at *
  subst hdiv
  have hlow : 2 * m * den ≤ 2 * (den * q + r) + den := by omega
  have hhigh : 2 * (den * q + r) ≤ (2 * m + 1) * den := by omega
  have hmq : m ≤ q + 1 := by
    by_contra hlt
    have : (q + 2) * den ≤ m * den := Nat.mul_le_mul_right _ (by omega)
    nlinarith
  have hqm : q ≤ m := by
    by_contra hlt
    have : (m + 1) * den ≤ q * den := Nat.mul_le_mul_right _ (by omega)
    nlinarith
  obtain rfl | rfl : m = q ∨ m = q + 1 := by omega
  · have h1 : (2 * m + 1) * den = 2 * (den * m) + den := by ring
    have h2 : 2 * m * den = 2 * (den * m) := by ring
    rw [h1] at high
    rw [h2] at low
    split_ifs <;> omega
  · have h1 : (2 * (q + 1) + 1) * den = 2 * (den * q) + 3 * den := by ring
    have h2 : 2 * (q + 1) * den = 2 * (den * q) + 2 * den := by ring
    rw [h1] at high
    rw [h2] at low
    split_ifs <;> omega

/-- The unit in which a number is rounded: the number has at most 53 bits before the point in this
unit, and no less unless there is no smaller unit. -/
structure IsUnit (q : ℚ) (e : ℤ) : Prop where
  /-- There is a least unit. -/
  least : -1074 ≤ e
  /-- The number has at most 53 bits. -/
  lt : q < 2 ^ 53 * 2 ^ e
  /-- It has no less, but for the least unit. -/
  le : e = -1074 ∨ 2 ^ 52 * 2 ^ e ≤ q

theorem scaled_lt_iff {num den c : Nat} (hden : 0 < den) (g : ℤ) :
    num * 2 ^ (-g).toNat < c * (den * 2 ^ g.toNat) ↔ (num / den : ℚ) < c * 2 ^ g := by
  have hd : (0 : ℚ) < den := by exact_mod_cast hden
  rw [zpow_eq_div 2 g two_ne_zero, ← mul_div_assoc,
    div_lt_div_iff₀ hd (by positivity), ← Nat.cast_lt (α := ℚ)]
  push_cast
  rw [show (c * 2 ^ g.toNat * den : ℚ) = c * (den * 2 ^ g.toNat) by ring]

/-- The logarithms place a ratio between two powers of two. -/
theorem ratio_between {num den : Nat} (hnum : 0 < num) (hden : 0 < den) :
    2 ^ 52 * 2 ^ ((num.log2 : ℤ) - den.log2 - 52 - 1) ≤ (num / den : ℚ) ∧
      (num / den : ℚ) < 2 ^ 53 * 2 ^ ((num.log2 : ℤ) - den.log2 - 52) := by
  have hd : (0 : ℚ) < den := by exact_mod_cast hden
  have hnum_le : (2 : ℚ) ^ (num.log2 : ℤ) ≤ num := by
    exact_mod_cast Nat.log2_self_le hnum.ne'
  have hnum_lt : (num : ℚ) < 2 ^ ((num.log2 : ℤ) + 1) := by
    exact_mod_cast Nat.lt_log2_self (n := num)
  have hden_le : (2 : ℚ) ^ (den.log2 : ℤ) ≤ den := by
    exact_mod_cast Nat.log2_self_le hden.ne'
  have hden_lt : (den : ℚ) < 2 ^ ((den.log2 : ℤ) + 1) := by
    exact_mod_cast Nat.lt_log2_self (n := den)
  constructor
  · calc (2 ^ 52 * 2 ^ ((num.log2 : ℤ) - den.log2 - 52 - 1) : ℚ)
      _ = 2 ^ (num.log2 : ℤ) / 2 ^ ((den.log2 : ℤ) + 1) := by
        rw [← zpow_natCast (2 : ℚ) 52, ← zpow_add₀ two_ne_zero, ← zpow_sub₀ two_ne_zero]
        congr 1
        push_cast
        ring
      _ ≤ num / den := div_le_div₀ (by positivity) hnum_le hd hden_lt.le
  · calc (num / den : ℚ)
      _ < 2 ^ ((num.log2 : ℤ) + 1) / 2 ^ (den.log2 : ℤ) :=
        div_lt_div₀ hnum_lt hden_le (by positivity) (by positivity)
      _ = 2 ^ 53 * 2 ^ ((num.log2 : ℤ) - den.log2 - 52) := by
        rw [← zpow_natCast (2 : ℚ) 53, ← zpow_add₀ two_ne_zero, ← zpow_sub₀ two_ne_zero]
        congr 1
        push_cast
        ring

theorem isUnit_unitExponent {num den : Nat} (hnum : 0 < num) (hden : 0 < den) :
    IsUnit (num / den) (unitExponent num den) := by
  obtain ⟨hlower, hupper⟩ := ratio_between hnum hden
  unfold unitExponent
  generalize (num.log2 : ℤ) - den.log2 - 52 = g at *
  simp only [twoTo_eq, scaled_lt_iff hden]
  -- the guess is one too large when the ratio is below `2 ^ 52` units of it
  obtain ⟨e, hexact, hlt, hle⟩ : ∃ e : ℤ,
      (if (num / den : ℚ) < ((2 ^ 52 : Nat) : ℚ) * 2 ^ g then g - 1 else g) = e ∧
        (num / den : ℚ) < 2 ^ 53 * 2 ^ e ∧ 2 ^ 52 * 2 ^ e ≤ (num / den : ℚ) := by
    by_cases hbelow : (num / den : ℚ) < ((2 ^ 52 : Nat) : ℚ) * 2 ^ g
    · refine ⟨g - 1, if_pos hbelow, ?_, hlower⟩
      have hhalf : (2 : ℚ) ^ 53 * 2 ^ (g - 1) = ((2 ^ 52 : Nat) : ℚ) * 2 ^ g := by
        rw [zpow_sub₀ two_ne_zero]
        push_cast
        ring
      rwa [hhalf]
    · refine ⟨g, if_neg hbelow, hupper, ?_⟩
      exact_mod_cast not_lt.1 hbelow
  rw [hexact]
  rcases le_total (-1074) e with h | h
  · rw [max_eq_left h]
    exact ⟨h, hlt, .inr hle⟩
  · rw [max_eq_right h]
    refine ⟨le_rfl, hlt.trans_le ?_, .inl rfl⟩
    have : (2 : ℚ) ^ e ≤ 2 ^ (-1074 : ℤ) := zpow_le_zpow_right₀ one_le_two h
    linarith

/-- A number that rounds to a double is rounded in its unit, or, below a narrow gap, in the next
smaller one. -/
theorem Attracts.unit {x : Double} (parts : Parts x) {q : ℚ} (h : x.Attracts q) {e : ℤ}
    (hunit : IsUnit q e) : e = x.exponent ∨ e = x.exponent - 1 ∧ x.isNarrowBelow = true := by
  have hlow := h.low_le
  have hhigh := h.le_high
  rw [lowEnd] at hlow
  rw [highEnd] at hhigh
  have hmantissa : (x.mantissa : ℚ) + 1 ≤ 2 ^ 53 := by
    exact_mod_cast Nat.succ_le_of_lt parts.mantissa_lt
  have hpos : (0 : ℚ) < 2 ^ (x.exponent - 2) := by positivity
  have hdouble : (2 : ℚ) ^ (x.exponent - 1) = 2 * 2 ^ (x.exponent - 2) := by
    rw [show x.exponent - 1 = x.exponent - 2 + 1 by ring, zpow_add_one₀ two_ne_zero]
    ring
  have height : (2 : ℚ) ^ (x.exponent + 1) = 8 * 2 ^ (x.exponent - 2) := by
    rw [show x.exponent + 1 = x.exponent - 2 + 3 by ring, zpow_add₀ two_ne_zero]
    norm_num
    ring
  have hle : e ≤ x.exponent := by
    by_contra hlt
    have hbits := hunit.le.resolve_left (by have := parts.least; omega)
    have hmono : (2 : ℚ) ^ (x.exponent + 1) ≤ 2 ^ e := zpow_le_zpow_right₀ one_le_two (by omega)
    nlinarith
  rcases hle.eq_or_lt with heq | hlt
  · exact .inl heq
  right
  have habove : -1074 < x.exponent := by have := hunit.least; omega
  have hfull : 2 ^ 52 ≤ x.mantissa := parts.full.resolve_left habove.ne'
  have hq := hunit.lt
  by_cases hnarrow : x.isNarrowBelow = true
  · refine ⟨?_, hnarrow⟩
    by_contra hne
    have hmono : (2 : ℚ) ^ e ≤ 2 ^ (x.exponent - 2) := zpow_le_zpow_right₀ one_le_two (by omega)
    have hmantissa : (x.mantissa : ℚ) = 2 ^ 52 := by exact_mod_cast (parts.narrow.1 hnarrow).1
    rw [if_pos hnarrow, hmantissa] at hlow
    nlinarith
  · have hne : x.mantissa ≠ 2 ^ 52 := fun heq => hnarrow (parts.narrow.2 ⟨heq, habove⟩)
    have hmantissa : (2 : ℚ) ^ 52 + 1 ≤ x.mantissa := by
      exact_mod_cast Nat.lt_of_le_of_ne hfull hne.symm
    have hmono : (2 : ℚ) ^ e ≤ 2 ^ (x.exponent - 1) := zpow_le_zpow_right₀ one_le_two (by omega)
    rw [if_neg hnarrow] at hlow
    nlinarith

/-- The mantissa of a number in a unit is the integer that is nearest to it. -/
theorem roundHalfEven_of_unit {num den m : Nat} (hden : 0 < den) (e : ℤ)
    (low : (2 * m - 1) * 2 ^ e < 2 * (num / den : ℚ) ∨
      m % 2 = 0 ∧ (2 * m - 1) * 2 ^ e = 2 * (num / den : ℚ))
    (high : 2 * (num / den : ℚ) < (2 * m + 1) * 2 ^ e ∨
      m % 2 = 0 ∧ 2 * (num / den : ℚ) = (2 * m + 1) * 2 ^ e) :
    roundHalfEven (num * 2 ^ (-e).toNat) (den * 2 ^ e.toNat) = m := by
  have hd : (0 : ℚ) < den := by exact_mod_cast hden
  have hup : (0 : ℚ) < 2 ^ e.toNat := by positivity
  have hdown : (0 : ℚ) < 2 ^ (-e).toNat := by positivity
  rw [zpow_eq_div 2 e two_ne_zero, ← mul_div_assoc, ← mul_div_assoc] at low high
  rw [div_lt_div_iff₀ hdown hd, div_eq_div_iff hdown.ne' hd.ne'] at low
  rw [div_lt_div_iff₀ hd hdown, div_eq_div_iff hd.ne' hdown.ne'] at high
  refine roundHalfEven_eq (by positivity) ?_ ?_
  · refine low.imp (fun h => ?_) fun h => ⟨h.1, ?_⟩
    · rw [← Nat.cast_lt (α := ℚ)]
      push_cast
      linarith
    · rw [← Nat.cast_inj (R := ℚ)]
      push_cast
      linarith [h.2]
  · refine high.imp (fun h => ?_) fun h => ⟨h.1, ?_⟩
    · rw [← Nat.cast_lt (α := ℚ)]
      push_cast
      linarith
    · rw [← Nat.cast_inj (R := ℚ)]
      push_cast
      linarith [h.2]

theorem lowEnd_pos {x : Double} (h : x.mantissa ≠ 0) : 0 < x.lowEnd := by
  have hmantissa : (1 : ℚ) ≤ x.mantissa := by exact_mod_cast Nat.one_le_iff_ne_zero.2 h
  have hpos : (0 : ℚ) < 2 ^ (x.exponent - 2) := by positivity
  rw [lowEnd]
  refine mul_pos ?_ hpos
  split <;> linarith

/-- A ratio that rounds to a double is read as the double. -/
theorem ofRatio_eq {x : Double} (finite : x.isFinite = true) (nonzero : x.mantissa ≠ 0)
    {num den : Nat} (hden : 0 < den) (h : x.Attracts (num / den)) :
    ofRatio x.isNegative num den = x := by
  have parts := parts_of_isFinite finite
  have hnum : num ≠ 0 := by
    rintro rfl
    have := (lowEnd_pos nonzero).trans_le h.low_le
    simp at this
  have hunit := isUnit_unitExponent (Nat.pos_of_ne_zero hnum) hden
  have hpower : (2 : ℚ) ^ x.exponent = 4 * 2 ^ (x.exponent - 2) := by
    rw [zpow_sub₀ two_ne_zero]
    norm_num
    ring
  have hpos : (0 : ℚ) < 2 ^ (x.exponent - 2) := by positivity
  rw [ofRatio, if_neg hnum]
  generalize unitExponent num den = e at *
  dsimp only [twoTo_eq]
  rcases h.unit parts hunit with rfl | ⟨rfl, hnarrow⟩
  · have hround : roundHalfEven (num * 2 ^ (-x.exponent).toNat) (den * 2 ^ x.exponent.toNat) =
        x.mantissa := by
      refine roundHalfEven_of_unit hden _ ?_ ?_ <;> rw [hpower]
      · by_cases hnarrow : x.isNarrowBelow = true
        · have hlow := h.low_le
          rw [lowEnd, if_pos hnarrow] at hlow
          exact .inl (by linarith)
        · have hlow := h.low
          rw [lowEnd, if_neg hnarrow] at hlow
          exact hlow.imp (fun hlt => by linarith) fun heq => ⟨heq.1, by linarith [heq.2]⟩
      · have hhigh := h.high
        rw [highEnd] at hhigh
        exact hhigh.imp (fun hlt => by linarith) fun heq => ⟨heq.1, by linarith [heq.2]⟩
    rw [hround, ← parts.bits, ofMagnitude_magnitudeBits finite]
  · obtain ⟨hmantissa, hleast⟩ := parts.narrow.1 hnarrow
    have hhalf : (2 : ℚ) ^ (x.exponent - 1) = 2 * 2 ^ (x.exponent - 2) := by
      rw [show x.exponent - 1 = x.exponent - 2 + 1 by ring, zpow_add_one₀ two_ne_zero]
      ring
    have hround : roundHalfEven (num * 2 ^ (-(x.exponent - 1)).toNat)
        (den * 2 ^ (x.exponent - 1).toNat) = 2 ^ 53 := by
      refine roundHalfEven_of_unit hden _ ?_ (.inl ?_) <;> rw [hhalf] <;> push_cast
      · have hlow := h.low
        rw [lowEnd, if_pos hnarrow, hmantissa] at hlow
        push_cast at hlow
        exact hlow.imp (fun hlt => by linarith) fun heq => ⟨by norm_num, by linarith [heq.2]⟩
      · have hlt := hunit.lt
        rw [hhalf] at hlt
        linarith
    have hbits : (x.exponent - 1 + 1074).toNat * 2 ^ 52 + 2 ^ 53 = x.magnitudeBits := by
      rw [parts.bits]
      omega
    rw [hround, hbits, ofMagnitude_magnitudeBits finite]

/-! ## Beyond every double -/

theorem isInfinite_iff {x : Double} :
    x.isInfinite = true ↔ x.isFinite = false ∧ x.isNaN = false := by
  rw [isInfinite, isFinite, isNaN, beq_iff_eq, decide_eq_false_iff_not, decide_eq_false_iff_not]
  omega

theorem isFinite_ofMagnitude {negative : Bool} {magnitude : Nat} :
    (ofMagnitude negative magnitude).isFinite = true ↔ magnitude < 2047 * 2 ^ 52 := by
  rw [isFinite_iff]
  unfold ofMagnitude
  have hbound : infinityBits = 2047 * 2 ^ 52 := rfl
  by_cases hlarge : infinityBits ≤ magnitude
  · rw [if_pos hlarge]
    refine iff_of_false ?_ (by omega)
    cases negative <;> decide
  · rw [if_neg hlarge, magnitudeBits]
    have hbits : (UInt64.ofNat (if negative = true then magnitude + twoTo 63 else magnitude)).toNat %
        twoTo 63 = magnitude := by
      rw [UInt64.toNat_ofNat', twoTo_eq]
      split <;> omega
    rw [hbits]

/-- A ratio is rounded below an even integer exactly if it is more than half a unit below. -/
theorem roundHalfEven_lt_iff {num den m : Nat} (hden : 0 < den) (even : m % 2 = 0) :
    roundHalfEven num den < m ↔ 2 * num + den < 2 * m * den := by
  have hdiv : den * (num / den) + num % den = num := Nat.div_add_mod num den
  have hmod : num % den < den := Nat.mod_lt _ hden
  rw [roundHalfEven]
  generalize num / den = q at *
  generalize num % den = r at *
  subst hdiv
  rcases Nat.lt_trichotomy (q + 1) m with hlt | rfl | hgt
  · refine iff_of_true (by split_ifs <;> omega) ?_
    have hmul : (q + 2) * den ≤ m * den := Nat.mul_le_mul_right _ (by omega)
    nlinarith
  · have hmul : 2 * (q + 1) * den = 2 * (den * q) + 2 * den := by ring
    rw [hmul]
    split_ifs <;> omega
  · refine iff_of_false (by split_ifs <;> omega) ?_
    have hmul : m * den ≤ q * den := Nat.mul_le_mul_right _ (by omega)
    nlinarith

theorem twoTo_add (k l : Nat) : twoTo (k + l) = 2 ^ k * twoTo l := pow_add 2 k l

theorem twoTo_pos (k : Nat) : 0 < twoTo k := Nat.two_pow_pos k

theorem twoTo_mono {k l : Nat} (h : k ≤ l) : twoTo k ≤ twoTo l := Nat.pow_le_pow_right two_pos h

/-- The integers without a double are those of which the magnitude is at least half a unit above
that of the greatest double. -/
theorem ofInt?_eq_none_iff {n : ℤ} : ofInt? n = none ↔ twoTo 1024 - twoTo 970 ≤ n.natAbs := by
  have hbound : twoTo 1024 = 2 ^ 54 * twoTo 970 := twoTo_add 54 970
  have hpos := twoTo_pos 970
  have hfinite : ofInt? n = none ↔ ¬(ofRatio (decide (n < 0)) n.natAbs 1).isFinite = true := by
    simp [ofInt?]
  rw [hfinite, ← Nat.not_lt, not_iff_not, hbound]
  generalize n.natAbs = size
  unfold ofRatio
  by_cases hzero : size = 0
  · rw [if_pos hzero]
    refine iff_of_true ?_ (by omega)
    cases decide (n < 0) <;> decide
  rw [if_neg hzero]
  have hunit := isUnit_unitExponent (Nat.pos_of_ne_zero hzero) Nat.one_pos
  generalize unitExponent size 1 = e at *
  dsimp only
  rw [isFinite_ofMagnitude, one_mul, twoTo_eq 52]
  have hsmall : size * twoTo (-e).toNat < 2 ^ 53 * twoTo e.toNat := by
    have hlt := (scaled_lt_iff (c := 2 ^ 53) Nat.one_pos e).2 (by exact_mod_cast hunit.lt)
    rwa [one_mul] at hlt
  have hrounds : ∀ m, m % 2 = 0 →
      (roundHalfEven (size * twoTo (-e).toNat) (twoTo e.toNat) < m ↔
        2 * (size * twoTo (-e).toNat) + twoTo e.toNat < 2 * m * twoTo e.toNat) :=
    fun _ => roundHalfEven_lt_iff (twoTo_pos e.toNat)
  generalize roundHalfEven (size * twoTo (-e).toNat) (twoTo e.toNat) = m at *
  rcases lt_trichotomy e 971 with hlow | heq | hhigh
  · -- a smaller unit leaves room above
    have hpower : twoTo e.toNat ≤ twoTo 970 := twoTo_mono (by omega)
    have hsize : size ≤ size * twoTo (-e).toNat := Nat.le_mul_of_pos_right _ (twoTo_pos _)
    have hround := hrounds (2 ^ 53 + 2) (by decide)
    omega
  · have hpower : twoTo 971 = 2 ^ 1 * twoTo 970 := twoTo_add 1 970
    have hround := hrounds (2 ^ 53) (by decide)
    rw [heq] at hround
    rw [show (-971 : ℤ).toNat = 0 from rfl, show (971 : ℤ).toNat = 971 from rfl, twoTo_eq 0,
      hpower] at hround
    omega
  · have hpower : twoTo 972 ≤ twoTo e.toNat := twoTo_mono (by omega)
    have hfour : twoTo 972 = 2 ^ 2 * twoTo 970 := twoTo_add 2 970
    have hround := hrounds (2 ^ 52) (by decide)
    have hlarge : 2 ^ 52 * twoTo e.toNat ≤ size * twoTo (-e).toNat := by
      have hle := hunit.le.resolve_left (by omega)
      have hnot := (scaled_lt_iff (c := 2 ^ 52) Nat.one_pos e).not.2 (by exact_mod_cast hle.not_gt)
      rw [one_mul] at hnot
      exact Nat.le_of_not_lt hnot
    have hwhole : twoTo (-e).toNat = 1 := by
      rw [show (-e).toNat = 0 by omega]
      rfl
    rw [hwhole] at hround hlarge
    omega

/-! ## Decimals -/

theorem two_pow_le_ten_pow (n : Nat) : (2 : ℚ) ^ (3 * n) ≤ 10 ^ n := by
  rw [pow_mul]
  exact pow_le_pow_left₀ (by norm_num) (by norm_num) n

/-- A number that rounds to a finite double is below `2 ^ 1025`. -/
theorem Attracts.lt {x : Double} (parts : Parts x) {q : ℚ} (h : x.Attracts q) : q < 2 ^ 1025 := by
  have hhigh := h.le_high
  have hmantissa : (x.mantissa : ℚ) + 1 ≤ 2 ^ 53 := by
    exact_mod_cast Nat.succ_le_of_lt parts.mantissa_lt
  have hpower : (2 : ℚ) ^ (x.exponent - 2) ≤ 2 ^ 969 := by
    rw [← zpow_natCast (2 : ℚ) 969]
    exact zpow_le_zpow_right₀ one_le_two (by have := parts.greatest; push_cast; omega)
  have hpos : (0 : ℚ) < 2 ^ (x.exponent - 2) := by positivity
  rw [highEnd] at hhigh
  calc q
    _ ≤ (4 * x.mantissa + 2) * 2 ^ (x.exponent - 2) := hhigh
    _ < 2 ^ 56 * 2 ^ 969 := mul_lt_mul (by linarith) hpower hpos (by positivity)
    _ = 2 ^ 1025 := by rw [← pow_add]

/-- A number that rounds to a double other than zero is not below `2 ^ -1075`. -/
theorem Attracts.ge {x : Double} (parts : Parts x) (nonzero : x.mantissa ≠ 0) {q : ℚ}
    (h : x.Attracts q) : 1 / 2 ^ 1075 ≤ q := by
  have hlow := h.low_le
  have hmantissa : (1 : ℚ) ≤ x.mantissa := by exact_mod_cast Nat.one_le_iff_ne_zero.2 nonzero
  have hpower : (1 : ℚ) / 2 ^ 1076 ≤ 2 ^ (x.exponent - 2) := by
    rw [one_div, ← zpow_natCast (2 : ℚ) 1076, ← zpow_neg]
    exact zpow_le_zpow_right₀ one_le_two (by have := parts.least; push_cast; omega)
  rw [lowEnd] at hlow
  calc (1 / 2 ^ 1075 : ℚ)
    _ = 2 * (1 / 2 ^ 1076) := by rw [pow_succ (2 : ℚ) 1075]; field_simp
    _ ≤ (4 * x.mantissa - if x.isNarrowBelow then 1 else 2) * 2 ^ (x.exponent - 2) := by
      refine mul_le_mul ?_ hpower (by positivity) ?_ <;> split <;> linarith
    _ ≤ q := hlow

/-- A decimal that rounds to a double is read as the double. -/
theorem ofDecimal_eq {x : Double} (finite : x.isFinite = true) (nonzero : x.mantissa ≠ 0)
    {digits : Nat} {power : ℤ} (h : x.Attracts (digits * 10 ^ power)) :
    ofDecimal x.isNegative digits power = x := by
  have parts := parts_of_isFinite finite
  have hdigits : digits ≠ 0 := by
    rintro rfl
    have := (lowEnd_pos nonzero).trans_le h.low_le
    simp at this
  have hone : (1 : ℚ) ≤ digits := by exact_mod_cast Nat.one_le_iff_ne_zero.2 hdigits
  -- neither of the powers that are cut short is that of a finite double
  have hnotHuge : ¬ 400 < power := by
    intro hhuge
    have hpower : (10 : ℚ) ^ 400 ≤ 10 ^ power := by
      rw [← zpow_natCast (10 : ℚ) 400]
      exact zpow_le_zpow_right₀ (by norm_num) (by push_cast; omega)
    have hbig : (2 : ℚ) ^ 1025 ≤ 2 ^ (3 * 400) := pow_le_pow_right₀ one_le_two (by norm_num)
    refine (h.lt parts).not_ge ?_
    calc (2 : ℚ) ^ 1025
      _ ≤ 10 ^ 400 := hbig.trans (two_pow_le_ten_pow 400)
      _ ≤ 10 ^ power := hpower
      _ ≤ digits * 10 ^ power := le_mul_of_one_le_left (by positivity) hone
  have hnotTiny : ¬ power < -400 - (digits.log2 : ℤ) := by
    intro htiny
    have hlog : (digits : ℚ) < 2 ^ (digits.log2 + 1) := by
      exact_mod_cast Nat.lt_log2_self (n := digits)
    have hpower : (10 : ℚ) ^ power ≤ 1 / 10 ^ (401 + digits.log2) := by
      rw [one_div, ← zpow_natCast (10 : ℚ), ← zpow_neg]
      exact zpow_le_zpow_right₀ (by norm_num) (by push_cast; omega)
    refine (h.ge parts nonzero).not_gt ?_
    calc (digits * 10 ^ power : ℚ)
      _ < 2 ^ (digits.log2 + 1) * (1 / 10 ^ (401 + digits.log2)) :=
        mul_lt_mul hlog hpower (by positivity) (by positivity)
      _ ≤ 2 ^ (digits.log2 + 1) * (1 / 2 ^ (3 * (401 + digits.log2))) := by
        gcongr
        exact two_pow_le_ten_pow _
      _ ≤ 1 / 2 ^ 1075 := by
        rw [mul_one_div, div_le_div_iff₀ (by positivity) (by positivity), ← pow_add, one_mul]
        exact pow_le_pow_right₀ one_le_two (by omega)
  rw [ofDecimal, if_neg hdigits, if_neg hnotHuge, if_neg hnotTiny]
  refine ofRatio_eq finite nonzero (by simp) ?_
  have hvalue : ((digits * tenTo power.toNat : Nat) / (tenTo (-power).toNat : Nat) : ℚ) =
      digits * 10 ^ power := by
    rw [zpow_eq_div 10 power (by norm_num), mul_div_assoc', tenTo_eq, tenTo_eq]
    push_cast
    rfl
  rw [hvalue]
  exact h

end Conduit.Double
