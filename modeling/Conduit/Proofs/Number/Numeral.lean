import Conduit.Number.Numeral
import Mathlib.Data.List.TakeWhile

/-!
# Which digits make a numeral

A run of digits is taken apart by reading its digits up to the first character that has no value.
Digits of any script are no blanks, no signs and no underscores, so a text of digits is read as an
integer unless one of them is a digit by its shape only, or there are too many.

* `digits_append` — a run of digits and what follows it;
* `integer_of_isDigits`, `exists_flaw_iff` — which texts of digits are integers;
* `numbered_inj` — different numbers have different numerals.
-/

namespace Conduit

namespace Text

/-- The spans of all digits, by value or by shape. -/
def digitSpans : Spans := (digitZeros.map fun first => (first, first + 9)) ++ shapedDigitSpans

theorem has_digitSpans {c : Char} (h : isDigit c = true) : digitSpans.has c.toNat = true := by
  rw [digitSpans, Spans.has_iff]
  rw [isDigit, Bool.or_eq_true] at h
  rcases h with h | h
  · obtain ⟨first, hfirst, hlow, hhigh⟩ :
        ∃ first ∈ digitZeros, first ≤ c.toNat ∧ c.toNat ≤ first + 9 := by
      rw [isDecimal, digitValue?] at h
      split at h
      · split at h
        · next hplain => exact ⟨0x30, by decide, hplain⟩
        · cases h
      · rw [Option.isSome_map] at h
        obtain ⟨first, hfirst⟩ := Option.isSome_iff_exists.1 h
        refine ⟨first, List.mem_of_find?_eq_some hfirst, ?_⟩
        simpa using List.find?_some hfirst
    exact ⟨(first, first + 9), List.mem_append_left _ (List.mem_map.2 ⟨first, hfirst, rfl⟩), hlow,
      hhigh⟩
  · obtain ⟨span, hspan, hinside⟩ := (Spans.has_iff _ _).1 h
    exact ⟨span, List.mem_append_right _ hspan, hinside⟩

theorem isBlank_of_isDigit {c : Char} (h : isDigit c = true) : isBlank c = false :=
  Spans.not_has_of_apart (by decide) (has_digitSpans h)

end Text

namespace Numeral

open Conduit.Text

/-! ## Runs of digits -/

theorem digits_cons {value? : Char → Option Nat} {c : Char} {d : Nat} {s : List Char}
    (value : value? c = some d) (plain : c ≠ '_') (next : s.head? ≠ some '_') :
    digits value? (c :: s) = (d :: (digits value? s).1, (digits value? s).2) := by
  rw [digits.eq_def value? (c :: s)]
  split <;> simp_all [digits]

/-- All digits of a run are read when what follows begins with none of them. -/
theorem digits_append {value? : Char → Option Nat} {s rest : List Char}
    (hs : ∀ c ∈ s, (value? c).isSome = true) (plain : '_' ∉ s)
    (stops : ∀ c ∈ rest.head?, value? c = none ∧ c ≠ '_') :
    digits value? (s ++ rest) = (s.filterMap value?, rest) := by
  induction s with
  | nil =>
    cases rest with
    | nil => rfl
    | cons c more =>
      obtain ⟨hnone, hplain⟩ := stops c rfl
      rw [List.nil_append]
      unfold digits
      split <;> simp_all
  | cons c s ih =>
    rw [List.forall_mem_cons] at hs
    rw [List.mem_cons, not_or] at plain
    obtain ⟨d, hd⟩ := Option.isSome_iff_exists.1 hs.1
    have hnext : (s ++ rest).head? ≠ some '_' := by
      cases s with
      | nil => exact fun h => (stops '_' h).2 rfl
      | cons c' s => exact fun h => plain.2 (by simp_all)
    rw [List.cons_append, digits_cons hd (Ne.symm plain.1) hnext, ih hs.2 plain.2,
      List.filterMap_cons_some hd]

/-! ## Texts of digits -/

section Digits

variable {s : List Char} (all : ∀ c ∈ s, isDigit c = true)

include all

/-- A text of digits has no blanks at its ends. -/
theorem trimmed_of_isDigit : trimmed s = s := by
  have hdrop : ∀ t : List Char, (∀ c ∈ t, isDigit c = true) → t.dropWhile isMargin = t := by
    intro t ht
    cases t with
    | nil => rfl
    | cons c t =>
      have hblank := isBlank_of_isDigit (ht c List.mem_cons_self)
      exact List.dropWhile_cons_of_neg (by simp [isMargin, hblank])
  rw [trimmed, hdrop s all, hdrop s.reverse fun c hc => all c (List.mem_reverse.1 hc),
    List.reverse_reverse]

/-- A text of digits has no sign. -/
theorem sign_of_isDigit : sign s = (false, s) := by
  unfold sign
  split
  · exact absurd (all '-' List.mem_cons_self) (by decide)
  · exact absurd (all '+' List.mem_cons_self) (by decide)
  · rfl

theorem digits_of_isDigit :
    digits digitValue? s = ((s.takeWhile isDecimal).filterMap digitValue?, s.dropWhile isDecimal) := by
  have hplain : '_' ∉ s := fun h => absurd (all '_' h) (by decide)
  conv => lhs; rw [← List.takeWhile_append_dropWhile (p := isDecimal) (l := s)]
  refine digits_append (List.all_eq_true.1 List.all_takeWhile) ?_ ?_
  · exact fun h => hplain ((List.takeWhile_sublist _).mem h)
  · intro c hc
    have hnot := List.head?_dropWhile_not isDecimal s
    rw [hc] at hnot
    refine ⟨by simpa [isDecimal] using hnot, ?_⟩
    rintro rfl
    exact hplain ((List.dropWhile_sublist _).mem (List.mem_of_mem_head? hc))

end Digits

/-- A text of digits that all have values, and not too many, is the integer that they stand for. -/
theorem integer_of_isDecimal {s : List Char} (nonempty : s ≠ [])
    (all : ∀ c ∈ s, isDecimal c = true) (short : s.length ≤ digitLimit) :
    integer s = .ok (valueOf (s.filterMap digitValue?)) := by
  have hdigits : ∀ c ∈ s, isDigit c = true := fun c hc => isDigit_of_isDecimal (all c hc)
  have hlength : (s.filterMap digitValue?).length = s.length :=
    List.filterMap_length_eq_length.2 all
  have hne : s.filterMap digitValue? ≠ [] := fun h =>
    nonempty (List.length_eq_zero_iff.1 (by rw [← hlength, h, List.length_nil]))
  rw [integer, trimmed_of_isDigit hdigits, sign_of_isDigit hdigits]
  dsimp only
  rw [digits_of_isDigit hdigits, List.takeWhile_eq_self_iff.2 all, List.dropWhile_eq_nil_iff.2 all]
  obtain ⟨d, ds, hvalues⟩ := List.exists_cons_of_ne_nil hne
  rw [hvalues] at hlength ⊢
  dsimp only
  rw [if_neg (by omega)]
  rfl

/-- A text of digits is no integer exactly if one of them has no value or there are too many. -/
theorem exists_flaw_iff {s : List Char} (nonempty : s ≠ []) (all : ∀ c ∈ s, isDigit c = true) :
    (∃ flaw, integer s = .error flaw) ↔
      (∃ c ∈ s, isDecimal c = false) ∨ digitLimit < s.length := by
  constructor
  · rintro ⟨flaw, h⟩
    by_contra hfits
    rw [not_or, not_exists] at hfits
    have hall : ∀ c ∈ s, isDecimal c = true := fun c hc =>
      Bool.not_eq_false _ ▸ fun hnot => hfits.1 c ⟨hc, hnot⟩
    rw [integer_of_isDecimal nonempty hall (by omega)] at h
    cases h
  · intro hodd
    rw [integer, trimmed_of_isDigit all, sign_of_isDigit all]
    dsimp only
    rw [digits_of_isDigit all]
    split
    · exact ⟨_, rfl⟩
    · exact ⟨_, rfl⟩
    · next heq =>
      obtain ⟨rfl, rfl⟩ := Prod.mk.inj heq
      split
      · exact ⟨_, rfl⟩
      · next hshort =>
        split
        · next hrest =>
          -- nothing is left, so all digits have values and were counted
          rw [List.isEmpty_iff, List.dropWhile_eq_nil_iff] at hrest
          rw [List.takeWhile_eq_self_iff.2 hrest, List.filterMap_length_eq_length.2 hrest] at hshort
          rcases hodd with ⟨c, hc, hnot⟩ | hlong
          · simp [hrest c hc] at hnot
          · exact absurd hlong hshort
        · exact ⟨_, rfl⟩

end Numeral

/-- Behind one text different numbers make different texts. -/
theorem numbered_inj {front : String} {k l : Nat} :
    front ++ toString k = front ++ toString l ↔ k = l := by
  refine ⟨fun h => ?_, fun h => h ▸ rfl⟩
  have hdigits : Nat.toDigits 10 k = Nat.toDigits 10 l := by
    rw [← Nat.toList_repr, ← Nat.toList_repr]
    exact congrArg String.toList ((String.append_right_inj _).1 h)
  have hnumber := congrArg (fun digits => Nat.ofDigitChars 10 digits 0) hdigits
  simpa only [Nat.ofDigitChars_toDigits (by decide : 1 < 10) (Nat.le_refl 10)] using hnumber

end Conduit
