import Conduit.Proofs.Number.Exact
import Conduit.Proofs.Value.Document
import Conduit.Value.Compare
import Mathlib.Data.List.Forall2

/-!
# Equality of values

Equality of values is transitive, although numbers of all sorts, truth values and NaN inside lists
and objects are compared each in their own way. Null and texts are equal to themselves only.

* `Value.equals_null_iff`, `Value.equals_str_iff` — what null and a text are equal to;
* `Value.list_equals_iff`, `Value.object_equals_iff` — lists and objects are compared by their
  parts;
* `Value.equals_trans` — equality is transitive.
-/

namespace Conduit

/-- A member that is found is there. -/
theorem Members.mem_of_get? {m : Members} {key : String} {v : Value} (h : m.get? key = some v) :
    (key, v) ∈ m := by
  induction m with
  | nil => cases h
  | cons member rest ih =>
    obtain ⟨k, w⟩ := member
    rw [Members.get?] at h
    split at h
    · next hk =>
      cases h
      exact hk ▸ List.mem_cons_self
    · exact List.mem_cons_of_mem _ (ih h)

namespace Value

section Cases

-- what two values are equal for is read off their kinds
attribute [local simp] equals number?

theorem equals_null_iff {v : Value} : v.equals null = true ↔ v = null := by
  cases v <;> simp

theorem null_equals_iff {v : Value} : null.equals v = true ↔ v = null := by
  cases v <;> simp

theorem equals_str_iff {v : Value} {s : String} : v.equals (str s) = true ↔ v = str s := by
  cases v <;> simp

/-! ## Numbers -/

/-- What counts as a number is equal to what counts as a number of the same value. -/
theorem equals_of_number {a b : Value} {x : Number} (ha : a.number? = some x) :
    a.equals b = true ↔ ∃ y, b.number? = some y ∧ x.equals y = true := by
  cases a <;> cases b <;> simp_all

/-- What is equal to a number counts as one of the same value. -/
theorem equals_number {a b : Value} {y : Number} (hb : b.number? = some y) :
    a.equals b = true ↔ ∃ x, a.number? = some x ∧ x.equals y = true := by
  cases a <;> cases b <;> simp_all

end Cases

theorem areNaN_iff {a b : Value} :
    areNaN a b = true ↔ ∃ x y, a = float x ∧ b = float y ∧ x.isNaN = true ∧ y.isNaN = true := by
  cases a <;> cases b <;> simp [areNaN]

/-- NaN is equal to nothing. -/
theorem not_equals_nan {a b c : Value} (nan : areNaN b c = true) : a.equals b = false := by
  obtain ⟨x, -, rfl, -, hx, -⟩ := areNaN_iff.1 nan
  rw [Bool.eq_false_iff, Ne, equals_number rfl]
  rintro ⟨y, -, hy⟩
  obtain ⟨v, -, hv⟩ := Number.equals_iff.1 hy
  simp [Number.meaning?, hx] at hv

theorem not_nan_equals {a b c : Value} (nan : areNaN a b = true) : b.equals c = false := by
  obtain ⟨-, y, -, rfl, -, hy⟩ := areNaN_iff.1 nan
  rw [Bool.eq_false_iff, Ne, equals_of_number rfl]
  rintro ⟨x, -, hx⟩
  obtain ⟨v, hv, -⟩ := Number.equals_iff.1 hx
  simp [Number.meaning?, hy] at hv

/-! ## Lists and objects -/

theorem equalItems_iff {as bs : List Value} :
    equalItems as bs = true ↔ List.Forall₂ (fun a b => agrees a b = true) as bs := by
  induction as generalizing bs with
  | nil => cases bs <;> simp [equalItems]
  | cons a as ih =>
    cases bs with
    | nil => simp [equalItems]
    | cons b bs => rw [equalItems, Bool.and_eq_true, ih, List.forall₂_cons, agrees]

theorem equalMembers_iff {as bs : Members} :
    equalMembers as bs = true ↔ ∀ m ∈ as, ∃ b, bs.get? m.1 = some b ∧ agrees m.2 b = true := by
  induction as with
  | nil => simp [equalMembers]
  | cons m as ih =>
    obtain ⟨key, a⟩ := m
    rw [equalMembers, Bool.and_eq_true, ih, List.forall_mem_cons]
    refine and_congr_left fun _ => ?_
    cases bs.get? key <;> simp [agrees]

/-- Lists are equal item by item. -/
theorem list_equals_iff {as : List Value} {v : Value} :
    (list as).equals v = true ↔
      ∃ bs, v = list bs ∧ List.Forall₂ (fun a b => agrees a b = true) as bs := by
  cases v <;> simp [equals, number?, equalItems_iff]

/-- Objects are equal if they have as many members and each member of the first is found in the
second. -/
theorem object_equals_iff {as : Members} {v : Value} :
    (object as).equals v = true ↔ ∃ bs : Members, v = object bs ∧ as.length = bs.length ∧
      ∀ m ∈ as, ∃ b, bs.get? m.1 = some b ∧ agrees m.2 b = true := by
  cases v <;> simp [equals, number?, equalMembers_iff]

/-! ## Transitivity -/

theorem agrees_trans {a b c : Value}
    (trans : a.equals b = true → b.equals c = true → a.equals c = true)
    (hab : agrees a b = true) (hbc : agrees b c = true) : agrees a c = true := by
  rw [agrees, Bool.or_eq_true] at hab hbc ⊢
  rcases hab with hab | hab
  · rcases hbc with hbc | hbc
    · obtain ⟨x, y, rfl, rfl, hx, -⟩ := areNaN_iff.1 hab
      obtain ⟨-, z, -, rfl, -, hz⟩ := areNaN_iff.1 hbc
      exact .inl (areNaN_iff.2 ⟨x, z, rfl, rfl, hx, hz⟩)
    · rw [not_nan_equals hab] at hbc
      cases hbc
  · rcases hbc with hbc | hbc
    · rw [not_equals_nan hbc] at hab
      cases hab
    · exact .inr (trans hab hbc)

theorem number_equals_trans {a b c : Value} {x : Number} (ha : a.number? = some x)
    (hab : a.equals b = true) (hbc : b.equals c = true) : a.equals c = true := by
  obtain ⟨y, hb, hxy⟩ := (equals_of_number ha).1 hab
  obtain ⟨z, hc, hyz⟩ := (equals_of_number hb).1 hbc
  exact (equals_of_number ha).2 ⟨z, hc, Number.equals_trans hxy hyz⟩

/-- Equality of values is transitive. -/
theorem equals_trans {a b c : Value} (hab : a.equals b = true) (hbc : b.equals c = true) :
    a.equals c = true := by
  induction a using Value.induction generalizing b c with
  | null =>
    cases b <;> simp [equals, number?] at hab
    exact hbc
  | bool x => exact number_equals_trans rfl hab hbc
  | int n => exact number_equals_trans rfl hab hbc
  | float x => exact number_equals_trans rfl hab hbc
  | str s =>
    cases b <;> simp [equals, number?] at hab
    exact hab ▸ hbc
  | list as ih =>
    obtain ⟨bs, rfl, hbs⟩ := list_equals_iff.1 hab
    obtain ⟨cs, rfl, hcs⟩ := list_equals_iff.1 hbc
    refine list_equals_iff.2 ⟨cs, rfl, ?_⟩
    clear hab hbc
    induction hbs generalizing cs with
    | nil =>
      cases hcs
      exact .nil
    | cons hfirst _ ihs =>
      cases hcs with
      | cons hsecond hrest =>
        obtain ⟨iha, ihas⟩ := List.forall_mem_cons.1 ih
        exact .cons (agrees_trans iha hfirst hsecond) (ihs ihas _ hrest)
  | object as ih =>
    obtain ⟨bs, rfl, hlength, hbs⟩ := object_equals_iff.1 hab
    obtain ⟨cs, rfl, hlength', hcs⟩ := object_equals_iff.1 hbc
    refine object_equals_iff.2 ⟨cs, rfl, hlength.trans hlength', fun m hm => ?_⟩
    obtain ⟨v, hv, hagrees⟩ := hbs m hm
    obtain ⟨w, hw, hagrees'⟩ := hcs (m.1, v) (Members.mem_of_get? hv)
    exact ⟨w, hw, agrees_trans (ih m hm) hagrees hagrees'⟩
  | handle => cases b <;> simp [equals, number?] at hab

end Value

end Conduit
