import Conduit.Proofs.Value.Document
import Mathlib.Logic.Basic

/-!
# Values inside each other

A value has a place in a document when no handle stands in it and not too many values stand inside
each other.

* `Value.Inside` — a value that stands inside another, so many levels below it;
* `Value.documentFlaw?_eq_none_iff` — what keeps a value out of a document;
* `Value.documentFlaw?_finite`, `Value.documentFlaw?_of_fits` — values that have a place there.
-/

namespace Conduit

namespace Value

/-- What stands in a value directly. -/
def children : Value → List Value
  | list items => items
  | object members => members.map (·.2)
  | _ => []

/-- A value stands inside another, so many levels below it. -/
inductive Inside : Nat → Value → Value → Prop
  | self (v : Value) : Inside 0 v v
  | deeper {n : Nat} {part child v : Value} (direct : child ∈ v.children)
      (inside : Inside n part child) : Inside (n + 1) part v

/-- What holds of a value if it holds of what stands in it directly holds of every value. -/
@[elab_as_elim]
theorem induction_children {motive : Value → Prop}
    (step : ∀ v, (∀ c ∈ v.children, motive c) → motive v) (v : Value) : motive v := by
  induction v using Value.induction with
  | list items ih => exact step _ ih
  | object members ih => exact step _ (List.forall_mem_map.2 ih)
  | _ => exact step _ (by simp [children])

/-- What stands inside a value is the value itself or stands inside one that is in it directly. -/
theorem forall_inside_iff {v : Value} {P : Nat → Value → Prop} :
    (∀ n part, Inside n part v → P n part) ↔
      P 0 v ∧ ∀ c ∈ v.children, ∀ n part, Inside n part c → P (n + 1) part := by
  constructor
  · intro h
    exact ⟨h 0 v (.self v), fun c hc n part hpart => h (n + 1) part (.deeper hc hpart)⟩
  · rintro ⟨hself, hbelow⟩ n part hpart
    cases hpart with
    | self => exact hself
    | deeper direct inside => exact hbelow _ direct _ part inside

/-! ## What keeps a value out of a document -/

theorem itemsFlaw?_eq_none_iff {items : List Value} {room : Nat} :
    itemsFlaw? items room = none ↔ ∀ v ∈ items, v.documentFlaw? room = none := by
  induction items with
  | nil => simp [itemsFlaw?]
  | cons v rest ih => simp [itemsFlaw?, ih]

theorem membersFlaw?_eq_none_iff {members : Members} {room : Nat} :
    membersFlaw? members room = none ↔ ∀ m ∈ members, m.2.documentFlaw? room = none := by
  induction members with
  | nil => simp [membersFlaw?]
  | cons m rest ih => simp [membersFlaw?, ih]

theorem documentFlaw?_succ_eq_none_iff {v : Value} {room : Nat} :
    v.documentFlaw? (room + 1) = none ↔
      v ≠ opaqueHandle ∧ ∀ c ∈ v.children, c.documentFlaw? room = none := by
  cases v with
  | list items => simp [documentFlaw?, children, itemsFlaw?_eq_none_iff]
  | object members =>
    simp only [documentFlaw?, children, membersFlaw?_eq_none_iff, List.forall_mem_map]
    simp
  | _ => simp [documentFlaw?, children]

/-- A value has a place in a document unless a handle stands in it, or a value at a level for which
there is no room. -/
theorem documentFlaw?_eq_none_iff {v : Value} {room : Nat} :
    v.documentFlaw? room = none ↔ ∀ n part, Inside n part v → n < room ∧ part ≠ opaqueHandle := by
  induction v using induction_children generalizing room with
  | step v ih =>
    cases room with
    | zero =>
      have hflaw : v.documentFlaw? 0 = some .depth := by cases v <;> rfl
      rw [hflaw]
      exact ⟨(by simp), fun h => absurd (h 0 v (.self v)).1 (Nat.lt_irrefl 0)⟩
    | succ room =>
      rw [documentFlaw?_succ_eq_none_iff, forall_inside_iff]
      refine and_congr (by simp) (forall₂_congr fun c hc => ?_)
      rw [ih c hc]
      exact forall₃_congr fun n part _ => and_congr Nat.succ_lt_succ_iff.symm Iff.rfl

/-- A value that has a place in a document has one where there is more room. -/
theorem documentFlaw?_mono {v : Value} {room more : Nat} (h : v.documentFlaw? room = none)
    (hle : room ≤ more) : v.documentFlaw? more = none := by
  rw [documentFlaw?_eq_none_iff] at h ⊢
  exact fun n part inside => ⟨Nat.lt_of_lt_of_le (h n part inside).1 hle, (h n part inside).2⟩

theorem finiteMembers_eq (members : Members) :
    finiteMembers members = members.map fun m => (m.1, m.2.finite) := by
  induction members with
  | nil => rfl
  | cons m rest ih => rw [finiteMembers, ih, List.map_cons]

/-- A value has a place in a document when what is left of it without infinities and NaN has. -/
theorem documentFlaw?_finite (v : Value) (room : Nat) :
    v.finite.documentFlaw? room = none ↔ v.documentFlaw? room = none := by
  induction v using induction_children generalizing room with
  | step v ih =>
    cases room with
    | zero =>
      have hflaw (w : Value) : w.documentFlaw? 0 = some .depth := by cases w <;> rfl
      rw [hflaw, hflaw]
    | succ room =>
      rw [documentFlaw?_succ_eq_none_iff, documentFlaw?_succ_eq_none_iff]
      have hchildren : v.finite.children = v.children.map finite := by
        cases v with
        | list items => simp [finite, children, finiteItems_eq]
        | object members => simp [finite, children, finiteMembers_eq, Function.comp_def]
        | float x =>
          simp only [finite]
          split <;> rfl
        | _ => rfl
      have hhandle : v.finite = opaqueHandle ↔ v = opaqueHandle := by
        cases v with
        | float x =>
          simp only [finite]
          split <;> simp
        | _ => simp [finite]
      rw [hchildren, List.forall_mem_map]
      exact and_congr (not_congr hhandle) (forall₂_congr fun c hc => ih c hc room)

/-- A value that a document can hold has a place there. -/
theorem documentFlaw?_of_fits {v : Value} {room limit : Nat} (h : v.fits room)
    (hlt : room < limit) : v.documentFlaw? limit = none := by
  obtain ⟨k, rfl⟩ := Nat.exists_eq_succ_of_ne_zero (Nat.ne_of_gt (Nat.zero_lt_of_lt hlt))
  induction v using induction_children generalizing room k with
  | step v ih =>
    have hparts : v ≠ opaqueHandle ∧ ∀ c ∈ v.children, 0 < room ∧ c.fits (room - 1) := by
      cases v with
      | list items =>
        simp only [fits, Bool.and_eq_true, decide_eq_true_eq, fitItems_iff] at h
        exact ⟨by simp, fun c hc => ⟨h.1, h.2 c hc⟩⟩
      | object members =>
        simp only [fits, Bool.and_eq_true, decide_eq_true_eq, fitMembers_iff] at h
        exact ⟨by simp, List.forall_mem_map.2 fun m hm => ⟨h.1.1, h.2 m hm⟩⟩
      | opaqueHandle => simp [fits] at h
      | _ => simp [children]
    refine documentFlaw?_succ_eq_none_iff.2 ⟨hparts.1, fun c hc => ?_⟩
    obtain ⟨hpos, hfits⟩ := hparts.2 c hc
    obtain ⟨j, rfl⟩ : ∃ j, k = j + 1 := ⟨k - 1, by omega⟩
    exact ih c hc hfits j (by omega)

end Value

end Conduit
