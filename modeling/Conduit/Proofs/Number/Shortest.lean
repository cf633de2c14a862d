import Conduit.Number.Shortest
import Conduit.Proofs.Number.Rounding

/-!
# The shortest decimal reads back

Whatever decimal is chosen for a finite double, it rounds to the double, and it is not too long to
be read digit by digit.

* `Double.attracts_of_roundsFrom` — what the search accepts rounds to the double;
* `Double.attracts_shortest` — so does what is chosen in the end;
* `Double.shortest_lt` — the length of its digits.
-/

namespace Conduit

namespace Decimal

/-- The number that a decimal stands for. -/
def value (d : Decimal) : ℚ := d.digits * 10 ^ d.power

/-- A comparison of a decimal and a binary number multiplies both by the same. -/
theorem exists_scale (d : Nat) (i : ℤ) (n : Nat) (j : ℤ) : ∃ k : ℚ, 0 < k ∧
    ((d * tenTo i.toNat * twoTo (-j).toNat : Nat) : ℚ) = d * 10 ^ i * k ∧
    ((n * twoTo j.toNat * tenTo (-i).toNat : Nat) : ℚ) = n * 2 ^ j * k := by
  refine ⟨10 ^ (-i).toNat * 2 ^ (-j).toNat, by positivity, ?_, ?_⟩
  · rw [Double.zpow_eq_div 10 i (by norm_num), Double.tenTo_eq, Double.twoTo_eq]
    push_cast
    field_simp
  · rw [Double.zpow_eq_div 2 j two_ne_zero, Double.tenTo_eq, Double.twoTo_eq]
    push_cast
    field_simp

theorem compareBinary_eq_lt {d : Nat} {i : ℤ} {n : Nat} {j : ℤ} :
    compareBinary d i n j = .lt ↔ (d * 10 ^ i : ℚ) < n * 2 ^ j := by
  obtain ⟨k, hk, hd, hn⟩ := exists_scale d i n j
  rw [compareBinary, Nat.compare_eq_lt, ← Nat.cast_lt (α := ℚ), hd, hn, mul_lt_mul_iff_left₀ hk]

theorem compareBinary_eq_gt {d : Nat} {i : ℤ} {n : Nat} {j : ℤ} :
    compareBinary d i n j = .gt ↔ (n * 2 ^ j : ℚ) < d * 10 ^ i := by
  obtain ⟨k, hk, hd, hn⟩ := exists_scale d i n j
  rw [compareBinary, Nat.compare_eq_gt, ← Nat.cast_lt (α := ℚ), hd, hn, mul_lt_mul_iff_left₀ hk]

theorem compareBinary_eq_eq {d : Nat} {i : ℤ} {n : Nat} {j : ℤ} :
    compareBinary d i n j = .eq ↔ (d * 10 ^ i : ℚ) = n * 2 ^ j := by
  obtain ⟨k, hk, hd, hn⟩ := exists_scale d i n j
  rw [compareBinary, Nat.compare_eq_eq, ← Nat.cast_inj (R := ℚ), hd, hn, mul_left_inj' hk.ne']

/-- Moving zeros into the power keeps the number. -/
theorem value_stripZeros (fuel : Nat) (d : Decimal) : (stripZeros fuel d).value = d.value := by
  induction fuel generalizing d with
  | zero => rfl
  | succ fuel ih =>
    rw [stripZeros]
    split
    · next h =>
      have hten : ((d.digits / 10 : Nat) : ℚ) * 10 = d.digits := by
        exact_mod_cast Nat.div_mul_cancel (Nat.dvd_of_mod_eq_zero h.1)
      rw [ih, value, value, zpow_add_one₀ (by norm_num), ← hten]
      ring
    · rfl

theorem digits_stripZeros_le (fuel : Nat) (d : Decimal) :
    (stripZeros fuel d).digits ≤ d.digits := by
  induction fuel generalizing d with
  | zero => exact Nat.le_refl _
  | succ fuel ih =>
    rw [stripZeros]
    split
    · exact (ih _).trans (Nat.div_le_self _ _)
    · exact Nat.le_refl _

end Decimal

namespace Double

/-- A decimal that the search accepts rounds to the double. -/
theorem attracts_of_roundsFrom {x : Double} (nonzero : x.mantissa ≠ 0) {d : Decimal}
    (h : x.roundsFrom d = true) : x.Attracts d.value := by
  have hbelow : ((4 * x.mantissa - (if x.isNarrowBelow then 1 else 2) : Nat) : ℚ) *
      2 ^ (x.exponent - 2) = x.lowEnd := by
    rw [lowEnd, Nat.cast_sub (by split <;> omega)]
    push_cast
    rfl
  have habove : ((4 * x.mantissa + 2 : Nat) : ℚ) * 2 ^ (x.exponent - 2) = x.highEnd := by
    rw [highEnd]
    push_cast
    rfl
  simp only [roundsFrom, Bool.and_eq_true, Bool.or_eq_true, beq_iff_eq,
    Decimal.compareBinary_eq_lt, Decimal.compareBinary_eq_gt, Decimal.compareBinary_eq_eq,
    hbelow, habove] at h
  exact ⟨h.1.imp_right fun hclosed => ⟨hclosed.1, hclosed.2.symm⟩, h.2⟩

theorem roundsFrom_of_onGrid? {x : Double} {power : ℤ} {d : Decimal}
    (h : x.onGrid? power = some d) : x.roundsFrom d = true ∧ d.power = power := by
  simp only [onGrid?] at h
  split at h
  · cases h
  · cases h
    exact ⟨‹_›, rfl⟩
  · cases h
    exact ⟨‹_›, rfl⟩
  · split at h
    · cases h
      exact ⟨‹_›, rfl⟩
    · cases h
      exact ⟨‹_›, rfl⟩
    · split at h <;> cases h <;> exact ⟨‹_›, rfl⟩

/-- What a search finds was accepted on one of its grids. -/
theorem roundsFrom_of_search {x : Double} {k : ℤ} {tries n : Nat} {d : Decimal}
    (h : x.search k tries n = some d) : x.roundsFrom d = true ∧ k - (n + tries) < d.power := by
  induction tries generalizing n with
  | zero => cases h
  | succ tries ih =>
    rw [search] at h
    split at h
    · next hgrid =>
      cases h
      obtain ⟨hrounds, hpower⟩ := roundsFrom_of_onGrid? hgrid
      exact ⟨hrounds, by omega⟩
    · obtain ⟨hrounds, hpower⟩ := ih h
      exact ⟨hrounds, by push_cast at hpower; omega⟩

/-- A double as a decimal, digit by digit. -/
theorem exact_value (m : Nat) (e : ℤ) :
    Decimal.value ⟨m * twoTo e.toNat * Nat.pow 5 (-e).toNat, -((-e).toNat : ℤ)⟩ = m * 2 ^ e := by
  have hfive : (5 : ℚ) ^ (-e).toNat * 2 ^ (-e).toNat = 10 ^ (-e).toNat := by
    rw [← mul_pow]
    norm_num
  rw [Decimal.value, zpow_neg, zpow_natCast, zpow_eq_div 2 e two_ne_zero, twoTo_eq,
    ← hfive]
  push_cast [Nat.pow_eq]
  field_simp

/-- The decimal that is chosen for a finite double: one that the search accepted, or the double
digit by digit. -/
theorem shortest_cases (x : Double) :
    (∃ d, x.roundsFrom d = true ∧ x.decimalExponent - 18 < d.power ∧
      x.shortest = Decimal.stripZeros 20 d) ∨
    x.shortest = ⟨x.mantissa * twoTo x.exponent.toNat * Nat.pow 5 (-x.exponent).toNat,
      -((-x.exponent).toNat : ℤ)⟩ := by
  unfold shortest
  generalize hsearch : x.search x.decimalExponent 17 1 = found
  cases found with
  | none => exact .inr rfl
  | some d =>
    obtain ⟨hrounds, hpower⟩ := roundsFrom_of_search hsearch
    exact .inl ⟨d, hrounds, by push_cast at hpower; omega, rfl⟩

/-- The decimal that is chosen for a finite double rounds to it. -/
theorem attracts_shortest {x : Double} (nonzero : x.mantissa ≠ 0) :
    x.Attracts x.shortest.value := by
  rcases x.shortest_cases with ⟨d, hrounds, -, heq⟩ | heq
  · rw [heq, Decimal.value_stripZeros]
    exact attracts_of_roundsFrom nonzero hrounds
  · rw [heq, exact_value]
    exact attracts_self x

/-! ## The length of the digits -/

theorem decimalExponent_ge {x : Double} (parts : Parts x) : -326 ≤ x.decimalExponent := by
  have hleast := parts.least
  have hguess : -325 ≤ ((x.mantissa.log2 : ℤ) + x.exponent) * 30103 / 100000 := by omega
  unfold decimalExponent
  dsimp only
  split_ifs <;> omega

/-- A decimal below a bound that is not too fine has few digits. -/
theorem digits_lt {d : Decimal} {a b : Nat} (hvalue : d.value < 10 ^ a) (hpower : -b ≤ d.power) :
    d.digits < 10 ^ (a + b) := by
  have hscale : (10 : ℚ) ^ (-b : ℤ) ≤ 10 ^ d.power :=
    zpow_le_zpow_right₀ (by norm_num) hpower
  have hdigits : (d.digits : ℚ) * 10 ^ (-b : ℤ) < 10 ^ a :=
    (mul_le_mul_of_nonneg_left hscale (by positivity)).trans_lt hvalue
  rw [zpow_neg, ← div_eq_mul_inv, div_lt_iff₀ (by positivity), zpow_natCast, ← pow_add] at hdigits
  exact_mod_cast hdigits

theorem ten_pow_le {n k : Nat} (h : n ≤ k) : 10 ^ n ≤ 10 ^ k := Nat.pow_le_pow_right (by norm_num) h

theorem two_pow_le {n k : Nat} (h : n ≤ 3 * k) : 2 ^ n ≤ 10 ^ k :=
  calc 2 ^ n
    _ ≤ 2 ^ (3 * k) := Nat.pow_le_pow_right (by norm_num) h
    _ = 8 ^ k := Nat.pow_mul 2 3 k
    _ ≤ 10 ^ k := Nat.pow_le_pow_left (by norm_num) k

theorem five_pow_le {n k : Nat} (h : n ≤ 10 * k) : 5 ^ n ≤ 10 ^ (7 * k) :=
  calc 5 ^ n
    _ ≤ 5 ^ (10 * k) := Nat.pow_le_pow_right (by norm_num) h
    _ = (5 ^ 10) ^ k := Nat.pow_mul 5 10 k
    _ ≤ (10 ^ 7) ^ k := Nat.pow_le_pow_left (by norm_num) k
    _ = 10 ^ (7 * k) := (Nat.pow_mul 10 7 k).symm

/-- A bound for the digits that are chosen: 780 of them. -/
def digitBound : Nat := 780

theorem exact_digits_lt {x : Double} (parts : Parts x) :
    x.mantissa * twoTo x.exponent.toNat * Nat.pow 5 (-x.exponent).toNat < 10 ^ digitBound := by
  have hgreatest := parts.greatest
  have hleast := parts.least
  have hmantissa : x.mantissa < 10 ^ 18 := parts.mantissa_lt.trans (by norm_num)
  -- one of the two powers is one
  have hpowers : 2 ^ x.exponent.toNat * 5 ^ (-x.exponent).toNat ≤ 10 ^ (7 * 108) := by
    rcases le_total 0 x.exponent with h | h
    · rw [Int.toNat_of_nonpos (show -x.exponent ≤ 0 by omega), pow_zero, mul_one]
      exact two_pow_le (by omega)
    · rw [Int.toNat_of_nonpos h, pow_zero, one_mul]
      exact five_pow_le (by omega)
  rw [twoTo_eq, Nat.pow_eq, mul_assoc]
  calc x.mantissa * (2 ^ x.exponent.toNat * 5 ^ (-x.exponent).toNat)
    _ < 10 ^ 18 * 10 ^ (7 * 108) := Nat.mul_lt_mul_of_lt_of_le hmantissa hpowers (by positivity)
    _ = 10 ^ (18 + 7 * 108) := (pow_add 10 18 (7 * 108)).symm
    _ ≤ 10 ^ digitBound := ten_pow_le (show 18 + 7 * 108 ≤ 780 by omega)

/-- The digits that are chosen for a finite double are not too long to be read one by one. -/
theorem shortest_lt {x : Double} (finite : x.isFinite = true) (nonzero : x.mantissa ≠ 0) :
    x.shortest.digits < 10 ^ digitBound := by
  have parts := parts_of_isFinite finite
  rcases x.shortest_cases with ⟨d, hrounds, hpower, heq⟩ | heq
  · have hexponent := decimalExponent_ge parts
    have hvalue : d.value < 10 ^ 342 :=
      ((attracts_of_roundsFrom nonzero hrounds).lt parts).trans_le
        (by exact_mod_cast two_pow_le (show 1025 ≤ 3 * 342 by norm_num))
    have hlt : d.digits < 10 ^ (342 + 343) := digits_lt hvalue (by push_cast; omega)
    rw [heq]
    exact ((Decimal.digits_stripZeros_le 20 d).trans_lt hlt).trans_le
      (ten_pow_le (show 342 + 343 ≤ 780 by omega))
  · rw [heq]
    exact exact_digits_lt parts

end Double

end Conduit
