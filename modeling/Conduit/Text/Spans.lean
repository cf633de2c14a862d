/-!
# Sets of characters as spans

A character class is a list of closed spans of code points, ascending and apart. This file holds
the membership test that every class of the library uses; the classes themselves are in
`Conduit.Text.Blank`, `Conduit.Text.Digit`, `Conduit.Text.Word`, `Conduit.Text.Printable` and
`Conduit.Text.Case`. All tables follow version 14 of the Unicode character database.
-/

namespace Conduit.Text

/-- Closed spans of code points. -/
abbrev Spans := List (Nat × Nat)

namespace Spans

/-- Whether the code point `n` lies in one of the spans. -/
def has : Spans → Nat → Bool
  | [], _ => false
  | (lo, hi) :: rest, n => (decide (lo ≤ n) && decide (n ≤ hi)) || has rest n

/-- The number of code points in the spans. -/
def size (s : Spans) : Nat :=
  (s.map fun span => span.2 + 1 - span.1).foldl (· + ·) 0

theorem has_iff (s : Spans) (n : Nat) :
    s.has n = true ↔ ∃ span ∈ s, span.1 ≤ n ∧ n ≤ span.2 := by
  induction s with
  | nil => simp [has]
  | cons span rest ih => obtain ⟨lo, hi⟩ := span; simp [has, ih]

/-- A character lies in one of two classes that are apart at most. -/
theorem not_has_of_apart {classes others : Spans} {n : Nat}
    (apart : ∀ span ∈ classes, ∀ other ∈ others, span.2 < other.1 ∨ other.2 < span.1)
    (h : classes.has n = true) : others.has n = false := by
  refine Bool.eq_false_iff.2 fun hother => ?_
  obtain ⟨span, hspan, hlow, hhigh⟩ := (has_iff classes n).1 h
  obtain ⟨other, hmem, hlow', hhigh'⟩ := (has_iff others n).1 hother
  have := apart span hspan other hmem
  omega

end Spans

end Conduit.Text
