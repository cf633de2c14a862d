import Conduit.Api.Response
import Conduit.Proofs.Value.Inside

/-!
# Values that responses have a place for

A value has a place in a response to a run when no handle stands in it, when not too many values
stand inside each other and when its integers are not too long. It stands there as it is, but for
infinities and NaN, when no name in it is one that responses leave out.

* `Value.hasLongInteger_eq_false_iff` — which values hold an integer that is not written;
* `Value.published_finite` — what responses show of a value without infinities and NaN;
* `Value.published_eq_iff` — which values they show as they are.
-/

namespace Conduit

namespace Value

/-! ## Integers that are not written -/

theorem anyLongInteger_eq (items : List Value) :
    anyLongInteger items = items.any hasLongInteger := by
  induction items with
  | nil => rfl
  | cons v rest ih => rw [anyLongInteger, ih, List.any_cons]

theorem anyMemberLongInteger_eq (members : Members) :
    anyMemberLongInteger members = members.any fun m => m.2.hasLongInteger := by
  induction members with
  | nil => rfl
  | cons m rest ih => rw [anyMemberLongInteger, ih, List.any_cons]

/-- An integer that is not written. -/
def IsLong (v : Value) : Prop := ∃ n : Int, v = int n ∧ tenTo Numeral.digitLimit ≤ n.natAbs

theorem isLong_int {n : Int} : (int n).IsLong ↔ tenTo Numeral.digitLimit ≤ n.natAbs :=
  ⟨fun ⟨_, heq, h⟩ => int.inj heq ▸ h, fun h => ⟨n, rfl, h⟩⟩

/-- All integers of a value are written unless one that is too long stands in it. -/
theorem hasLongInteger_eq_false_iff {v : Value} :
    v.hasLongInteger = false ↔ ∀ n part, Inside n part v → ¬part.IsLong := by
  induction v using induction_children with
  | step v ih =>
    have hsplit : v.hasLongInteger = false ↔
        ¬v.IsLong ∧ ∀ c ∈ v.children, c.hasLongInteger = false := by
      cases v with
      | int n =>
        rw [hasLongInteger, Numeral.isLong, decide_eq_false_iff_not, isLong_int]
        simp [children]
      | list items => simp [hasLongInteger, children, IsLong, anyLongInteger_eq]
      | object members =>
        simp only [hasLongInteger, children, anyMemberLongInteger_eq, List.any_eq_false,
          Bool.not_eq_true, List.forall_mem_map]
        simp [IsLong]
      | _ => simp [hasLongInteger, children, IsLong]
    rw [hsplit, forall_inside_iff]
    exact and_congr Iff.rfl (forall₂_congr ih)

/-! ## What responses show -/

theorem publishedItems_eq (items : List Value) : publishedItems items = items.map published := by
  induction items with
  | nil => rfl
  | cons v rest ih => rw [publishedItems, ih, List.map_cons]

theorem publishedMembers_cons (m : String × Value) (rest : Members) :
    publishedMembers (m :: rest) =
      if isInternalName m.1 then publishedMembers rest
      else (m.1, m.2.published) :: publishedMembers rest := by
  rw [publishedMembers]

/-- It makes no difference whether infinities and NaN are left out before or after. -/
theorem published_finite (v : Value) : v.finite.published = v.published.finite := by
  induction v using Value.induction with
  | list items ih =>
    simp only [finite, published, publishedItems_eq, finiteItems_eq, List.map_map, list.injEq,
      List.map_inj_left]
    exact ih
  | object members ih =>
    simp only [finite, published, object.injEq]
    induction members with
    | nil => rfl
    | cons m rest ihrest =>
      rw [List.forall_mem_cons] at ih
      rw [finiteMembers, publishedMembers_cons, publishedMembers_cons, ihrest ih.2]
      split
      · rfl
      · rw [finiteMembers, ih.1]
  | float x =>
    simp only [finite, published]
    split <;> rfl
  | _ => rfl

theorem any_eq_any {α : Type} {items : List α} {p q : α → Bool} (h : ∀ a ∈ items, p a = q a) :
    items.any p = items.any q := by
  rw [Bool.eq_iff_iff, List.any_eq_true, List.any_eq_true]
  exact exists_congr fun a => and_congr_right fun ha => by rw [h a ha]

theorem hasLongInteger_finite (v : Value) : v.finite.hasLongInteger = v.hasLongInteger := by
  induction v using Value.induction with
  | list items ih =>
    simp only [finite, hasLongInteger, anyLongInteger_eq, finiteItems_eq, List.any_map]
    exact any_eq_any ih
  | object members ih =>
    simp only [finite, hasLongInteger, anyMemberLongInteger_eq, finiteMembers_eq, List.any_map]
    exact any_eq_any ih
  | float x =>
    simp only [finite]
    split <;> rfl
  | _ => rfl

/-- No name in a value is one that responses leave out. -/
def IsPublic (v : Value) : Prop :=
  ∀ n part, Inside n part v →
    ∀ members : Members, part = object members → ∀ m ∈ members, isInternalName m.1 = false

theorem length_publishedMembers_le (members : Members) :
    (publishedMembers members).length ≤ members.length := by
  induction members with
  | nil => exact Nat.le_refl _
  | cons m rest ih =>
    rw [publishedMembers_cons]
    split
    · exact Nat.le_succ_of_le ih
    · exact Nat.succ_le_succ ih

/-- Responses show members as they are if they leave out none of their names and show their values
as they are. -/
theorem publishedMembers_eq_self_iff {members : Members} :
    publishedMembers members = members ↔
      ∀ m ∈ members, isInternalName m.1 = false ∧ m.2.published = m.2 := by
  induction members with
  | nil => simp [publishedMembers]
  | cons m rest ih =>
    rw [publishedMembers_cons, List.forall_mem_cons, ← ih]
    cases hname : isInternalName m.1 with
    | true =>
      have hlength := length_publishedMembers_le rest
      refine ⟨fun h => ?_, fun h => absurd h.1.1 (by simp)⟩
      rw [if_pos rfl] at h
      rw [h, List.length_cons] at hlength
      omega
    | false => simp [Prod.ext_iff]

/-- Responses show a value without infinities and NaN as it is if no handle stands in it and no name
that they leave out. -/
theorem published_eq_iff {v : Value} :
    v.finite.published = v.finite ↔
      (∀ n part, Inside n part v → part ≠ opaqueHandle) ∧ v.IsPublic := by
  induction v using induction_children with
  | step v ih =>
    unfold IsPublic
    rw [forall_inside_iff, forall_inside_iff]
    have hsplit : v.finite.published = v.finite ↔
        (v ≠ opaqueHandle ∧ ∀ members : Members, v = object members →
          ∀ m ∈ members, isInternalName m.1 = false) ∧
        ∀ c ∈ v.children, c.finite.published = c.finite := by
      cases v with
      | list items =>
        simp [finite, published, publishedItems_eq, finiteItems_eq, children, Function.comp_def]
      | object members =>
        simp only [finite, published, object.injEq, publishedMembers_eq_self_iff, finiteMembers_eq,
          children, List.forall_mem_map]
        constructor
        · intro h
          refine ⟨⟨by simp, ?_⟩, fun m hm => (h m hm).2⟩
          rintro _ rfl m hm
          exact (h m hm).1
        · rintro ⟨⟨-, hnames⟩, hvalues⟩ m hm
          exact ⟨hnames members rfl m hm, hvalues m hm⟩
      | float x =>
        simp only [finite]
        split <;> simp [published, children]
      | _ => simp [finite, published, children]
    rw [hsplit, and_and_and_comm, ← forall₂_and]
    refine and_congr Iff.rfl (forall₂_congr ih)

end Value

end Conduit
