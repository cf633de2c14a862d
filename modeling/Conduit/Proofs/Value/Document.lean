import Conduit.Number.Numeral
import Conduit.Value.Document

/-!
# What a document can hold

A value goes into a document and comes out of it again when it holds no handle, when the names of
the members of every object are distinct, when its integers are not too long to be read and when its
lists and objects are not nested too deep.

* `Numeral.isShort` — whether an integer is not too long;
* `Value.fits` — whether a document can hold a value at a depth;
* `Value.fits_finite` — it then holds what is left without infinities and NaN;
* `Value.finite_finite` — in which there are none.
-/

namespace Conduit

/-- Whether a number has no more digits than are read. -/
def Numeral.isShort (n : Nat) : Bool := decide ((Nat.toDigits 10 n).length ≤ Numeral.digitLimit)

theorem Numeral.isShort_mono {n m : Nat} (h : Numeral.isShort m) (hle : n ≤ m) :
    Numeral.isShort n := by
  have hpos : 0 < Numeral.digitLimit := by decide
  simp only [Numeral.isShort, decide_eq_true_eq,
    Nat.length_toDigits_le_iff (show 1 < 10 by omega) hpos] at h ⊢
  exact Nat.lt_of_le_of_lt hle h

/-- An integer of which a document can hold the digits does not have too many. -/
theorem Numeral.isLong_eq_false {n : Int} (h : Numeral.isShort n.natAbs) :
    Numeral.isLong n = false := by
  have hpos : 0 < Numeral.digitLimit := by decide
  -- as an equation for all powers, lest the limit itself be evaluated
  have htenTo (k : Nat) : tenTo k = 10 ^ k := rfl
  rw [Numeral.isShort, decide_eq_true_eq,
    Nat.length_toDigits_le_iff (show 1 < 10 by omega) hpos, ← htenTo] at h
  exact decide_eq_false (Nat.not_le_of_lt h)

namespace Value

/-- What holds of a value if it holds of its parts holds of every value. -/
@[elab_as_elim]
theorem induction {motive : Value → Prop} (null : motive null) (bool : ∀ b, motive (bool b))
    (int : ∀ n, motive (int n)) (float : ∀ x, motive (float x)) (str : ∀ s, motive (str s))
    (list : ∀ items, (∀ v ∈ items, motive v) → motive (list items))
    (object : ∀ members : Members, (∀ m ∈ members, motive m.2) → motive (object members))
    (handle : motive opaqueHandle) (v : Value) : motive v :=
  @Value.rec motive (fun items => ∀ v ∈ items, motive v) (fun members => ∀ m ∈ members, motive m.2)
    (fun m => motive m.2) null bool int float str list object handle
    (by simp) (fun _ _ first rest => List.forall_mem_cons.2 ⟨first, rest⟩)
    (by simp) (fun _ _ first rest => List.forall_mem_cons.2 ⟨first, rest⟩)
    (fun _ _ h => h) v

mutual

/-- Whether a document can hold a value, of which at most `room` lists and objects stand inside each
other. -/
def fits : Value → Nat → Bool
  | int n, _ => Numeral.isShort n.natAbs
  | list items, room => decide (0 < room) && fitItems items (room - 1)
  | object members, room =>
    decide (0 < room) && decide (Members.keys members).Nodup && fitMembers members (room - 1)
  | opaqueHandle, _ => false
  | _, _ => true

/-- Whether a document can hold the items of a list. -/
def fitItems : List Value → Nat → Bool
  | [], _ => true
  | v :: rest, room => fits v room && fitItems rest room

/-- Whether a document can hold the values of members. -/
def fitMembers : List (String × Value) → Nat → Bool
  | [], _ => true
  | (_, v) :: rest, room => fits v room && fitMembers rest room

end

mutual

/-- What a document can hold in a room it can hold in a larger one. -/
theorem fits_mono : ∀ {v : Value} {room more : Nat}, v.fits room → room ≤ more → v.fits more
  | null, _, _, _, _ => by simp [fits]
  | bool _, _, _, _, _ => by simp [fits]
  | int _, _, _, h, _ => by simpa [fits] using h
  | float _, _, _, _, _ => by simp [fits]
  | str _, _, _, _, _ => by simp [fits]
  | opaqueHandle, _, _, h, _ => by simp [fits] at h
  | list items, room, more, h, hle => by
    simp only [fits, Bool.and_eq_true, decide_eq_true_eq] at h ⊢
    exact ⟨by omega, fitItems_mono h.2 (by omega)⟩
  | object members, room, more, h, hle => by
    simp only [fits, Bool.and_eq_true, decide_eq_true_eq] at h ⊢
    exact ⟨⟨by omega, h.1.2⟩, fitMembers_mono h.2 (by omega)⟩

theorem fitItems_mono : ∀ {items : List Value} {room more : Nat}, fitItems items room →
    room ≤ more → fitItems items more
  | [], _, _, _, _ => by simp [fitItems]
  | v :: rest, _, _, h, hle => by
    simp only [fitItems, Bool.and_eq_true] at h ⊢
    exact ⟨fits_mono h.1 hle, fitItems_mono h.2 hle⟩

theorem fitMembers_mono : ∀ {members : List (String × Value)} {room more : Nat},
    fitMembers members room → room ≤ more → fitMembers members more
  | [], _, _, _, _ => by simp [fitMembers]
  | (_, v) :: rest, _, _, h, hle => by
    simp only [fitMembers, Bool.and_eq_true] at h ⊢
    exact ⟨fits_mono h.1 hle, fitMembers_mono h.2 hle⟩

end

/-- Leaving out infinities and NaN keeps the names of members. -/
@[simp] theorem keys_finiteMembers (members : Members) :
    Members.keys (finiteMembers members) = Members.keys members := by
  induction members with
  | nil => rfl
  | cons member rest ih =>
    obtain ⟨key, v⟩ := member
    simpa [finiteMembers, Members.keys] using ih

mutual

/-- What a document can hold it can hold without infinities and NaN. -/
theorem fits_finite : ∀ {v : Value} {room : Nat}, v.fits room → v.finite.fits room
  | null, _, _ => by simp [finite, fits]
  | bool _, _, _ => by simp [finite, fits]
  | int _, _, h => by simpa [finite] using h
  | float x, _, _ => by
    simp only [finite]
    split <;> simp [fits]
  | str _, _, _ => by simp [finite, fits]
  | opaqueHandle, _, h => by simp [fits] at h
  | list items, room, h => by
    simp only [fits, finite, Bool.and_eq_true, decide_eq_true_eq] at h ⊢
    exact ⟨h.1, fitItems_finite h.2⟩
  | object members, room, h => by
    simp only [fits, finite, Bool.and_eq_true, decide_eq_true_eq, keys_finiteMembers] at h ⊢
    exact ⟨h.1, fitMembers_finite h.2⟩

theorem fitItems_finite : ∀ {items : List Value} {room : Nat}, fitItems items room →
    fitItems (finiteItems items) room
  | [], _, _ => by simp [finiteItems, fitItems]
  | v :: rest, _, h => by
    simp only [fitItems, finiteItems, Bool.and_eq_true] at h ⊢
    exact ⟨fits_finite h.1, fitItems_finite h.2⟩

theorem fitMembers_finite : ∀ {members : List (String × Value)} {room : Nat},
    fitMembers members room → fitMembers (finiteMembers members) room
  | [], _, _ => by simp [finiteMembers, fitMembers]
  | (_, v) :: rest, _, h => by
    simp only [fitMembers, finiteMembers, Bool.and_eq_true] at h ⊢
    exact ⟨fits_finite h.1, fitMembers_finite h.2⟩

end

mutual

/-- What is left without infinities and NaN has none. -/
@[simp] theorem finite_finite : ∀ v : Value, v.finite.finite = v.finite
  | null => rfl
  | bool _ => rfl
  | int _ => rfl
  | float x => by
    simp only [finite]
    split
    · next h => rw [finite, if_pos h]
    · rfl
  | str _ => rfl
  | opaqueHandle => rfl
  | list items => by rw [finite, finite, finiteItems_finite]
  | object members => by rw [finite, finite, finiteMembers_finite]

@[simp] theorem finiteItems_finite : ∀ items : List Value,
    finiteItems (finiteItems items) = finiteItems items
  | [] => rfl
  | v :: rest => by rw [finiteItems, finiteItems, finite_finite, finiteItems_finite]

@[simp] theorem finiteMembers_finite : ∀ members : List (String × Value),
    finiteMembers (finiteMembers members) = finiteMembers members
  | [] => rfl
  | (_, v) :: rest => by rw [finiteMembers, finiteMembers, finite_finite, finiteMembers_finite]

end

theorem finiteItems_eq (items : List Value) : finiteItems items = items.map finite := by
  induction items with
  | nil => rfl
  | cons v rest ih => rw [finiteItems, ih, List.map_cons]

theorem fitItems_iff {items : List Value} {room : Nat} :
    fitItems items room ↔ ∀ v ∈ items, v.fits room := by
  induction items with
  | nil => simp [fitItems]
  | cons v rest ih => simp [fitItems, ih]

theorem fitMembers_iff {members : Members} {room : Nat} :
    fitMembers members room ↔ ∀ m ∈ members, m.2.fits room := by
  induction members with
  | nil => simp [fitMembers]
  | cons m rest ih => simp [fitMembers, ih]

@[simp] theorem fits_str (t : String) (room : Nat) : (str t).fits room := by
  simp [fits]

theorem fits_list {items : List Value} {room : Nat} :
    (list items).fits (room + 1) ↔ ∀ v ∈ items, v.fits room := by
  simp [fits, fitItems_iff]

theorem fits_object {members : Members} {room : Nat} :
    (object members).fits (room + 1) ↔
      (Members.keys members).Nodup ∧ fitMembers members room := by
  simp [fits]

end Value

end Conduit
