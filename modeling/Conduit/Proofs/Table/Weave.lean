import Mathlib.Data.List.Perm.Basic
import Mathlib.Order.Lattice
import Mathlib.Order.OrderDual

/-!
# Lists in the order of a key

Sorting by a key is told here without an algorithm. A list in order is one whose keys never fall,
and sorting a list puts it in order so that items of one key stay as they were. Of two lists in
order one is woven by taking the lesser of their first items again and again.

* `Table.Ascends`, `Table.Descends`, `Table.Sorts` — lists in order, and one sorted into another;
* `Table.Sorts.unique` — how a list is sorted is determined;
* `Table.weave`, `Table.Sorts.weave` — two lists in order woven into one sort both;
* `Table.Opposite`, `Table.Sorts.reverse` — sorting backwards by the opposite order.
-/

namespace Conduit.Table

variable {α κ : Type} [LinearOrder κ] {key : α → κ}

/-! ## Order -/

/-- Items stand in the order of their keys. -/
def Ascends (key : α → κ) (l : List α) : Prop := l.Pairwise fun a b => key a ≤ key b

/-- The keys of items fall all the way. -/
def Descends (key : α → κ) (l : List α) : Prop := l.Pairwise fun a b => key b < key a

theorem Ascends.cons {x y : α} {l : List α} (h : Ascends key (y :: l)) (hxy : key x ≤ key y) :
    Ascends key (x :: y :: l) := by
  refine List.pairwise_cons.2 ⟨List.forall_mem_cons.2 ⟨hxy, fun a ha => ?_⟩, h⟩
  exact hxy.trans ((List.pairwise_cons.1 h).1 a ha)

theorem Descends.cons {x y : α} {l : List α} (h : Descends key (y :: l)) (hxy : key y < key x) :
    Descends key (x :: y :: l) := by
  refine List.pairwise_cons.2 ⟨List.forall_mem_cons.2 ⟨hxy, fun a ha => ?_⟩, h⟩
  exact ((List.pairwise_cons.1 h).1 a ha).trans hxy

/-- The first item of a list in order has the least key. -/
theorem Ascends.head_le {x : α} {l rest : List α} (h : Ascends key l) (hl : l = x :: rest) :
    ∀ y ∈ l, key x ≤ key y := by
  subst hl
  exact List.forall_mem_cons.2 ⟨le_rfl, (List.pairwise_cons.1 h).1⟩

/-- The last item of a list in order has the greatest key. -/
theorem Ascends.le_last {x : α} {l : List α} (h : Ascends key l) (hl : l.getLast? = some x) :
    ∀ y ∈ l, key y ≤ key x := by
  obtain ⟨front, rfl⟩ := List.getLast?_eq_some_iff.1 hl
  intro y hy
  rcases List.mem_append.1 hy with hy | hy
  · exact (List.pairwise_append.1 h).2.2 y hy x (List.mem_singleton_self x)
  · exact (List.mem_singleton.1 hy) ▸ le_rfl

/-- The items of a list that have the same key as an item, in their order. -/
def tied (key : α → κ) (c : α) (l : List α) : List α := l.filter fun a => key a = key c

@[simp] theorem mem_tied {c a : α} {l : List α} : a ∈ tied key c l ↔ a ∈ l ∧ key a = key c := by
  simp [tied]

@[simp] theorem tied_append (c : α) (l l' : List α) :
    tied key c (l ++ l') = tied key c l ++ tied key c l' := List.filter_append ..

@[simp] theorem tied_reverse (c : α) (l : List α) :
    tied key c l.reverse = (tied key c l).reverse := List.filter_reverse

theorem tied_cons_of_eq {c a : α} (l : List α) (h : key a = key c) :
    tied key c (a :: l) = a :: tied key c l := List.filter_cons_of_pos (by simpa using h)

theorem tied_cons_of_ne {c a : α} (l : List α) (h : key a ≠ key c) :
    tied key c (a :: l) = tied key c l := List.filter_cons_of_neg (by simpa using h)

theorem tied_eq_nil_iff {c : α} {l : List α} : tied key c l = [] ↔ ∀ a ∈ l, key a ≠ key c := by
  simp [tied]

/-- A list is sorted into another one: that is in order and has the items of each key as they
were. -/
structure Sorts (key : α → κ) (l s : List α) : Prop where
  ascends : Ascends key s
  ties : ∀ c, tied key c s = tied key c l

/-- A list in order is sorted. -/
theorem Sorts.of_ascends {l : List α} (h : Ascends key l) : Sorts key l l := ⟨h, fun _ => rfl⟩

theorem Sorts.mem_iff {l s : List α} (h : Sorts key l s) {a : α} : a ∈ s ↔ a ∈ l := by
  have hties : a ∈ tied key a s ↔ a ∈ tied key a l := by rw [h.ties]
  simpa using hties

/-- Sorting loses and doubles nothing. -/
theorem Sorts.perm {l s : List α} (h : Sorts key l s) : s.Perm l := by
  classical
  refine List.perm_iff_count.2 fun a => ?_
  have hcount : ∀ l : List α, (tied key a l).count a = l.count a := fun l =>
    List.count_filter (by simp)
  rw [← hcount, h.ties, hcount]

/-- How a list is sorted is determined. -/
theorem Sorts.unique {l s s' : List α} (h : Sorts key l s) (h' : Sorts key l s') : s = s' := by
  induction s generalizing l s' with
  | nil => exact (h'.perm.trans h.perm.symm).symm.nil_eq
  | cons a rest ih =>
    have hperm : (a :: rest).Perm s' := h.perm.trans h'.perm.symm
    cases s' with
    | nil => exact hperm.eq_nil
    | cons b rest' =>
      obtain ⟨ha, hrest⟩ := List.pairwise_cons.1 h.ascends
      obtain ⟨hb, hrest'⟩ := List.pairwise_cons.1 h'.ascends
      -- each of the first items comes before the other, so they are tied
      have hab : key a ≤ key b := by
        rcases List.mem_cons.1 (hperm.mem_iff.2 List.mem_cons_self) with rfl | hmem
        · exact le_refl _
        · exact ha b hmem
      have hba : key b ≤ key a := by
        rcases List.mem_cons.1 (hperm.mem_iff.1 List.mem_cons_self) with rfl | hmem
        · exact le_refl _
        · exact hb a hmem
      have hkey : key b = key a := le_antisymm hba hab
      have hties : ∀ c, tied key c (a :: rest) = tied key c (b :: rest') := fun c =>
        (h.ties c).trans (h'.ties c).symm
      have hfirst := hties a
      rw [tied_cons_of_eq _ rfl, tied_cons_of_eq _ hkey] at hfirst
      obtain rfl : a = b := (List.cons.inj hfirst).1
      refine congrArg (a :: ·) (ih ⟨hrest, fun c => rfl⟩ ⟨hrest', fun c => ?_⟩)
      by_cases hc : key a = key c
      · have hrests := hties c
        rw [tied_cons_of_eq _ hc, tied_cons_of_eq _ hc] at hrests
        exact (List.cons.inj hrests).2.symm
      · rw [← tied_cons_of_ne rest' hc, ← tied_cons_of_ne rest hc, hties]

/-- A list whose keys fall all the way is sorted backwards. -/
theorem Sorts.of_descends {l : List α} (h : Descends key l) :
    Sorts key l l.reverse where
  ascends := List.pairwise_reverse.2 (h.imp le_of_lt)
  ties := by
    intro c
    have hone : (tied key c l).Pairwise fun a b => False := by
      refine (h.sublist List.filter_sublist).imp_of_mem fun ha hb hlt => ?_
      exact absurd ((mem_tied.1 hb).2.trans (mem_tied.1 ha).2.symm) hlt.ne
    rw [tied_reverse]
    match hl : tied key c l, hone with
    | [], _ => rfl
    | [_], _ => rfl
    | _ :: _ :: _, hone => exact ((List.pairwise_cons.1 hone).1 _ List.mem_cons_self).elim

/-! ## Weaving -/

/-- Two lists as one, always the lesser of their first items next; of equal items those of the first
list come first. -/
def weave (key : α → κ) (a b : List α) : List α := List.merge a b fun x y => key x ≤ key y

@[simp] theorem weave_nil_left (b : List α) : weave key [] b = b := List.nil_merge b

@[simp] theorem weave_nil_right (a : List α) : weave key a [] = a := List.merge_right a

theorem weave_cons_of_le {x y : α} (a b : List α) (h : key x ≤ key y) :
    weave key (x :: a) (y :: b) = x :: weave key a (y :: b) := by
  rw [weave, List.cons_merge_cons, if_pos (by simpa using h)]
  rfl

theorem weave_cons_of_lt {x y : α} (a b : List α) (h : key y < key x) :
    weave key (x :: a) (y :: b) = y :: weave key (x :: a) b := by
  rw [weave, List.cons_merge_cons, if_neg (by simpa using h)]
  rfl

/-- Items of the first list that come before the second one come first. -/
theorem weave_append_left {p a b : List α} (h : ∀ x ∈ p, ∀ y ∈ b, key x ≤ key y) :
    weave key (p ++ a) b = p ++ weave key a b := by
  cases b with
  | nil => simp
  | cons y b =>
    induction p with
    | nil => rfl
    | cons x p ih =>
      obtain ⟨hx, hp⟩ := List.forall_mem_cons.1 h
      rw [List.cons_append, weave_cons_of_le _ _ (hx y List.mem_cons_self), ih hp]
      rfl

/-- Items of the second list that come before the first one come first. -/
theorem weave_append_right {a p b : List α} (h : ∀ y ∈ p, ∀ x ∈ a, key y < key x) :
    weave key a (p ++ b) = p ++ weave key a b := by
  cases a with
  | nil => simp
  | cons x a =>
    induction p with
    | nil => rfl
    | cons y p ih =>
      obtain ⟨hy, hp⟩ := List.forall_mem_cons.1 h
      rw [List.cons_append, weave_cons_of_lt _ _ (hy x List.mem_cons_self), ih hp]
      rfl

/-- Items of the second list that come behind the first one stay behind. -/
theorem weave_append_behind {a b p : List α} (h : ∀ x ∈ a, ∀ y ∈ p, key x ≤ key y) :
    weave key a (b ++ p) = weave key a b ++ p := by
  induction a generalizing b with
  | nil => simp
  | cons x a ih =>
    obtain ⟨hx, ha⟩ := List.forall_mem_cons.1 h
    induction b with
    | nil =>
      rw [List.nil_append, weave_nil_right]
      simpa using weave_append_left (a := []) h
    | cons y b ihb =>
      rw [List.cons_append]
      rcases le_or_gt (key x) (key y) with hle | hlt
      · rw [weave_cons_of_le _ _ hle, weave_cons_of_le _ _ hle, ← List.cons_append, ih ha]
        rfl
      · rw [weave_cons_of_lt _ _ hlt, weave_cons_of_lt _ _ hlt, ihb]
        rfl

theorem ascends_weave {a b : List α} (ha : Ascends key a) (hb : Ascends key b) :
    Ascends key (weave key a b) := by
  have htrans : ∀ x y z : α, decide (key x ≤ key y) = true → decide (key y ≤ key z) = true →
      decide (key x ≤ key z) = true := by
    intro x y z hxy hyz
    rw [decide_eq_true_eq] at hxy hyz ⊢
    exact hxy.trans hyz
  have htotal : ∀ x y : α, (decide (key x ≤ key y) || decide (key y ≤ key x)) = true := by
    intro x y
    simpa using le_total (key x) (key y)
  have hmerge := List.pairwise_merge htrans htotal a b (by simpa [Ascends] using ha)
    (by simpa [Ascends] using hb)
  simpa [Ascends, weave] using hmerge

theorem tied_weave {a b : List α} (ha : Ascends key a) (c : α) :
    tied key c (weave key a b) = tied key c a ++ tied key c b := by
  induction a generalizing b with
  | nil => simp [tied]
  | cons x a ih =>
    obtain ⟨hx, ha'⟩ := List.pairwise_cons.1 ha
    induction b with
    | nil => simp [tied]
    | cons y b ihb =>
      rcases le_or_gt (key x) (key y) with hle | hlt
      · rw [weave_cons_of_le _ _ hle]
        by_cases hc : key x = key c
        · rw [tied_cons_of_eq _ hc, tied_cons_of_eq _ hc, ih ha', List.cons_append]
        · rw [tied_cons_of_ne _ hc, tied_cons_of_ne _ hc, ih ha']
      · rw [weave_cons_of_lt _ _ hlt]
        by_cases hc : key y = key c
        · -- nothing of the first list is tied with what goes before all of it
          have hnone : tied key c (x :: a) = [] := by
            refine tied_eq_nil_iff.2 (List.forall_mem_cons.2 ⟨?_, fun z hz => ?_⟩)
            · exact (hc ▸ hlt).ne'
            · exact (lt_of_lt_of_le (hc ▸ hlt) (hx z hz)).ne'
          rw [tied_cons_of_eq _ hc, tied_cons_of_eq _ hc, ihb, hnone]
          rfl
        · rw [tied_cons_of_ne _ hc, tied_cons_of_ne _ hc, ihb]

/-- What two lists are sorted into is woven into what both are sorted into. -/
theorem Sorts.weave {l l' s s' : List α} (h : Sorts key l s) (h' : Sorts key l' s') :
    Sorts key (l ++ l') (Table.weave key s s') where
  ascends := ascends_weave h.ascends h'.ascends
  ties c := by rw [tied_weave h.ascends, h.ties, h'.ties, tied_append]

/-! ## The opposite order -/

/-- One key orders items as the other one does backwards. -/
def Opposite {κ' : Type} [LinearOrder κ'] (key : α → κ) (key' : α → κ') : Prop :=
  ∀ a b, key' a ≤ key' b ↔ key b ≤ key a

section Opposite

variable {κ' : Type} [LinearOrder κ'] {key' : α → κ'}

theorem opposite_dual (key : α → κ) : Opposite key fun a => OrderDual.toDual (key a) :=
  fun _ _ => Iff.rfl

theorem Opposite.symm (opposite : Opposite key key') : Opposite key' key :=
  fun a b => (opposite b a).symm

theorem Opposite.lt_iff (opposite : Opposite key key') {a b : α} :
    key' a < key' b ↔ key b < key a := by
  rw [← not_le, ← not_le, opposite b a]

theorem Opposite.eq_iff (opposite : Opposite key key') {a b : α} :
    key' a = key' b ↔ key a = key b := by
  rw [le_antisymm_iff, le_antisymm_iff, opposite a b, opposite b a, and_comm]

theorem Opposite.ascends_reverse (opposite : Opposite key key') {l : List α} :
    Ascends key' l.reverse ↔ Ascends key l := by
  rw [Ascends, List.pairwise_reverse, Ascends]
  exact List.Pairwise.iff fun a b => opposite b a

/-- Sorting backwards by the opposite order is sorting. -/
theorem Sorts.reverse (opposite : Opposite key key') {l s : List α} (h : Sorts key' l.reverse s) :
    Sorts key l s.reverse where
  ascends := opposite.symm.ascends_reverse.2 h.ascends
  ties c := by
    have hties : ∀ l : List α, tied key c l = tied key' c l := fun l =>
      List.filter_congr fun a _ => by simp [opposite.eq_iff]
    rw [hties, hties, tied_reverse, h.ties, tied_reverse, List.reverse_reverse]

/-- Two lists can be woven backwards. -/
theorem weave_reverse (opposite : Opposite key key') {a b : List α} (ha : Ascends key a)
    (hb : Ascends key b) : (weave key' b.reverse a.reverse).reverse = weave key a b := by
  refine Sorts.unique (l := a ++ b) (Sorts.reverse opposite ?_)
    ((Sorts.of_ascends ha).weave (.of_ascends hb))
  rw [List.reverse_append]
  exact (Sorts.of_ascends (opposite.ascends_reverse.2 hb)).weave
    (.of_ascends (opposite.ascends_reverse.2 ha))

end Opposite

end Conduit.Table
