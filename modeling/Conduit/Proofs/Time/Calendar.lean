import Conduit.Time.Moment
import Mathlib.Order.Monotone.Basic

/-!
# The calendar

Every day has one date of the calendar. Years are counted from March and in eras of 400 years, so
that the day that a leap year adds comes last.

* `Date.toDays_ofDays` — the day of the date of a day is the day;
* `Date.isValid_ofDays` — the date of a day is one of the calendar;
* `Date.year_ofDays` — the year of a day between the years 1 and 9999.
-/

namespace Conduit.Date

/-! ## Years of an era -/

/-- The days of an era less the days that leap years add, as far as these are over. -/
def commonDays (dayOfEra : Nat) : Nat :=
  dayOfEra - dayOfEra / 1460 + dayOfEra / 36524 - dayOfEra / 146096

/-- The first day of a year of an era. -/
def yearStart (yearOfEra : Nat) : Nat := 365 * yearOfEra + yearOfEra / 4 - yearOfEra / 100

theorem commonDays_mono : Monotone commonDays := by
  refine monotone_nat_of_le_succ fun n => ?_
  unfold commonDays
  omega

/-- A year has 365 days, and one more if it is a leap year. -/
theorem yearStart_succ (y : Nat) : yearStart (y + 1) =
    yearStart y + if (y + 1) % 4 = 0 ∧ (y + 1) % 100 ≠ 0 then 366 else 365 := by
  unfold yearStart
  split <;> omega

/-- The common days of a year are those from its first to its last day. -/
theorem commonDays_year : ∀ y < 400, 365 * y ≤ commonDays (yearStart y) ∧
    (0 < y → commonDays (yearStart y - 1) < 365 * y) := by
  decide +kernel

/-- The year of a day of an era is the one that has begun and is not over. -/
theorem yearStart_le {dayOfEra : Nat} (h : dayOfEra < 146097) :
    commonDays dayOfEra / 365 < 400 ∧ yearStart (commonDays dayOfEra / 365) ≤ dayOfEra ∧
      (commonDays dayOfEra / 365 < 399 →
        dayOfEra < yearStart (commonDays dayOfEra / 365 + 1)) := by
  have hlast : commonDays dayOfEra ≤ commonDays 146096 := commonDays_mono (by omega)
  have hend : commonDays 146096 = 145999 := by decide
  generalize hy : commonDays dayOfEra / 365 = y
  have hyear : y < 400 := by omega
  refine ⟨hyear, ?_, fun hnext => ?_⟩
  · by_contra hbefore
    have hpos : 0 < y := by
      rcases Nat.eq_zero_or_pos y with rfl | hpos
      · exact absurd (Nat.zero_le _) hbefore
      · exact hpos
    have hmono : commonDays dayOfEra ≤ commonDays (yearStart y - 1) := commonDays_mono (by omega)
    have := (commonDays_year y hyear).2 hpos
    omega
  · by_contra hafter
    have hmono : commonDays (yearStart (y + 1)) ≤ commonDays dayOfEra := commonDays_mono (by omega)
    have := (commonDays_year (y + 1) (by omega)).1
    omega

/-! ## Days of a year -/

/-- The month of a day of a year that begins with March. -/
def monthOf (d : Nat) : Nat :=
  if (5 * d + 2) / 153 < 10 then (5 * d + 2) / 153 + 3 else (5 * d + 2) / 153 - 9

/-- The months lie in a year one after the other, and a leap day comes last. -/
theorem month_of_day : ∀ d < 366,
    (monthOf d + 9) % 12 = (5 * d + 2) / 153 ∧ (1 ≤ monthOf d ∧ monthOf d ≤ 12) ∧
      (153 * ((5 * d + 2) / 153) + 2) / 5 ≤ d ∧
      if d = 365 then monthOf d = 2 ∧ d - (153 * ((5 * d + 2) / 153) + 2) / 5 + 1 = 29
      else d - (153 * ((5 * d + 2) / 153) + 2) / 5 + 1 ≤ monthLength 1 (monthOf d) := by
  decide +kernel

/-- A month is no longer than in a year without a leap day. -/
theorem monthLength_le (year : Int) (month : Nat) :
    monthLength 1 month ≤ monthLength year month := by
  unfold monthLength
  rw [show isLeapYear 1 = false from rfl]
  split
  · cases isLeapYear year <;> decide
  · exact le_rfl

/-- January and February are the last months of a year that begins with March. -/
theorem monthOf_le_two {d : Nat} (h : d < 366) : monthOf d ≤ 2 ↔ 306 ≤ d := by
  unfold monthOf
  split <;> omega

/-- A day as the era, the year of the era and the day of the year that it lies in. -/
structure Split (days : Int) (era : Int) (y d : Nat) : Prop where
  /-- The day is counted from the first day of the era. -/
  days : days + 719468 = era * 146097 + (yearStart y + d : Nat)
  /-- An era has 400 years. -/
  year : y < 400
  /-- A year has at most 366 days. -/
  day : d < 366
  /-- Only a leap year has that many. -/
  leap : d = 365 → (y + 1) % 4 = 0 ∧ ((y + 1) % 100 ≠ 0 ∨ y = 399)

/-- Every day lies in a year of an era. -/
theorem exists_split (days : Int) : ∃ era y d, Split days era y d ∧
    (days + 719468).fdiv 146097 = era ∧
    commonDays (yearStart y + d) / 365 = y := by
  have hera : (days + 719468).fdiv 146097 = (days + 719468) / 146097 :=
    Int.fdiv_eq_ediv_of_nonneg _ (by omega)
  obtain ⟨dayOfEra, hday⟩ : ∃ n : Nat, days + 719468 = (days + 719468) / 146097 * 146097 + n :=
    ⟨((days + 719468) % 146097).toNat, by omega⟩
  obtain ⟨hyear, hbegun, hover⟩ := yearStart_le (show dayOfEra < 146097 by omega)
  generalize hy : commonDays dayOfEra / 365 = y at hyear hbegun hover
  obtain ⟨d, rfl⟩ := Nat.exists_eq_add_of_le hbegun
  have hlength : d < 366 ∧ (d = 365 → (y + 1) % 4 = 0 ∧ ((y + 1) % 100 ≠ 0 ∨ y = 399)) := by
    rcases Nat.lt_or_ge y 399 with hnext | hlast
    · have := hover hnext
      rw [yearStart_succ] at this
      split at this <;> omega
    · obtain rfl : y = 399 := by omega
      have : yearStart 399 = 145731 := by decide
      omega
  exact ⟨_, y, d, ⟨hday, hyear, hlength.1, hlength.2⟩, hera, hy⟩

/-- The date of a day by its parts. -/
theorem ofDays_eq (days : Int) : ∃ era y d, Split days era y d ∧ ofDays days =
    ⟨y + era * 400 + if monthOf d ≤ 2 then 1 else 0, monthOf d,
      d - (153 * ((5 * d + 2) / 153) + 2) / 5 + 1⟩ := by
  obtain ⟨era, y, d, hsplit, hera, hyear⟩ := exists_split days
  refine ⟨era, y, d, hsplit, ?_⟩
  have hday : (days + 719468 - era * 146097).toNat = yearStart y + d := by
    have := hsplit.days
    omega
  have hrest : yearStart y + d - (365 * y + y / 4 - y / 100) = d := Nat.add_sub_cancel_left ..
  rw [commonDays] at hyear
  simp only [ofDays, hera, hday, hyear, hrest, monthOf]
  rfl

/-- The day of the date of a day is the day. -/
theorem toDays_ofDays (days : Int) : toDays (ofDays days) = days := by
  obtain ⟨era, y, d, hsplit, heq⟩ := ofDays_eq days
  obtain ⟨hmonth, -, hstart, -⟩ := month_of_day d hsplit.day
  have hyear : (if monthOf d ≤ 2 then (y + era * 400 + if monthOf d ≤ 2 then 1 else 0 : Int) - 1
      else y + era * 400 + if monthOf d ≤ 2 then 1 else 0) = y + era * 400 := by
    split <;> omega
  have hera : ((y : Int) + era * 400).fdiv 400 = era := by
    rw [Int.fdiv_eq_ediv_of_nonneg _ (by omega)]
    have := hsplit.year
    omega
  have hrest : ((y : Int) + era * 400 - era * 400).toNat = y := by omega
  have hday := hsplit.days
  rw [heq]
  simp only [toDays, hyear, hera, hrest, hmonth]
  unfold yearStart at hday
  omega

/-- The date of a day is one of the calendar. -/
theorem isValid_ofDays (days : Int) : (ofDays days).isValid := by
  obtain ⟨era, y, d, hsplit, heq⟩ := ofDays_eq days
  obtain ⟨-, hmonth, -, hday⟩ := month_of_day d hsplit.day
  have hlength : d - (153 * ((5 * d + 2) / 153) + 2) / 5 + 1 ≤
      monthLength (ofDays days).year (monthOf d) := by
    split at hday
    next hlast =>
      obtain ⟨hfour, hhundred⟩ := hsplit.leap hlast
      have hleap : isLeapYear (ofDays days).year := by
        rw [heq]
        simp only [hday.1, isLeapYear, Bool.and_eq_true, Bool.or_eq_true, beq_iff_eq,
          bne_iff_ne, ne_eq, le_refl, if_true]
        omega
      rw [hday.1, hday.2, monthLength, if_pos rfl, if_pos hleap]
    next => exact le_trans hday (monthLength_le _ _)
  simp only [heq] at hlength
  simp only [isValid, heq, Bool.and_eq_true, decide_eq_true_eq]
  exact ⟨⟨hmonth, by omega⟩, hlength⟩

/-- The year of a day between the years 1 and 9999. -/
theorem year_ofDays {days : Int} (first : toDays ⟨1, 1, 1⟩ ≤ days)
    (last : days < toDays ⟨10000, 1, 1⟩) :
    1 ≤ (ofDays days).year ∧ (ofDays days).year ≤ 9999 := by
  obtain ⟨era, y, d, hsplit, heq⟩ := ofDays_eq days
  have hfirst : toDays ⟨1, 1, 1⟩ = -719162 := by decide
  have hlast : toDays ⟨10000, 1, 1⟩ = 2932897 := by decide
  have hdays := hsplit.days
  have hyear := hsplit.year
  have hday := hsplit.day
  have hmonth := monthOf_le_two hday
  rw [hfirst] at first
  rw [hlast] at last
  simp only [heq]
  unfold yearStart at hdays
  split <;> omega

end Conduit.Date
