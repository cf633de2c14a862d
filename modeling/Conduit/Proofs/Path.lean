import Conduit.Path

/-!
# Reading and writing at a path

What is written at a path is read there, and what other paths read stays, as far as the containers
on the way allow it. The containers decide: an object tells all names apart, while a list goes by
the positions that segments stand for, and gives way to an object when a name is written to it.

* `Holds`, `get?_cons_eq_some_iff` — reading one segment at a time;
* `get?_assign` — what is written is read;
* `Spares`, `get?_assign_of_spares` — what else is read stays;
* `assign_eq_self` — writing back what is read changes nothing;
* `Stuck`, `lookup?_eq_error_iff` — when reading is a fault;
* `Blocked`, `assign_fault_iff` — when writing is a fault.
-/

namespace Conduit.Path

/-- Only the empty path has no segments. -/
theorem split_eq_nil_iff {path : String} : split path = .ok [] ↔ path = "" := by
  rw [split, ← String.isEmpty_iff]
  split
  · next h => exact iff_of_true rfl h
  · next h =>
    refine iff_of_false ?_ h
    split
    · exact fun hnil => by cases hnil
    · next segments hne =>
      intro hnil
      exact hne (List.map_eq_nil_iff.1 (Except.ok.inj hnil))

/-! ## One segment -/

theorem getElem?_putItem_self (items : List Value) (i : Nat) (v : Value) :
    (putItem items i v)[i]? = some v := by
  unfold putItem
  split
  · next h => exact List.getElem?_set_self h
  · next h =>
    rw [List.getElem?_append_right (by omega), List.getElem?_append_right (by simp)]
    simp

theorem getElem?_putItem_of_ne {items : List Value} {i j : Nat} {u : Value}
    (there : items[i]? = some u) (ne : j ≠ i) (v : Value) : (putItem items j v)[i]? = some u := by
  obtain ⟨hi, -⟩ := List.getElem?_eq_some_iff.1 there
  unfold putItem
  split
  · rw [List.getElem?_set_ne ne, there]
  · rw [List.getElem?_append_left hi, there]

/-- A segment names a part of a container. -/
inductive Holds : Value → String → Value → Prop
  | member {members : Members} {a : String} {v : Value} (there : Members.get? members a = some v) :
      Holds (.object members) a v
  | item {items : List Value} {a : String} {i : Nat} {v : Value} (digits : isPosition a = true)
      (stands : position a = .ok i) (there : items[i]? = some v) : Holds (.list items) a v

/-- A path is read segment by segment. -/
theorem get?_cons_eq_some_iff {c u : Value} {a : String} {p : List String} :
    get? c (a :: p) = .ok (some u) ↔ ∃ v, Holds c a v ∧ get? v p = .ok (some u) := by
  constructor
  · intro h
    cases c with
    | object members =>
      rw [get?] at h
      split at h
      · cases h
      · next v hv => exact ⟨v, .member hv, h⟩
    | list items =>
      rw [get?] at h
      split at h
      · next hdigits =>
        split at h
        · cases h
        · next i hi =>
          split at h
          · cases h
          · next v hv => exact ⟨v, .item hdigits hi hv, h⟩
      · cases h
    | _ => simp [get?] at h
  · rintro ⟨v, holds, h⟩
    cases holds with
    | member there => rw [get?, there]; exact h
    | item digits stands there => rw [get?, if_pos digits, stands]; simp [there, h]

/-- The segment can be written to the container so that it names what was written. -/
def Admits (c : Value) (a : String) : Prop := ∀ items, c = .list items → isPosition a = true

theorem admits_object (members : Members) (a : String) : Admits (.object members) a := nofun

/-- A path goes on in a container that admits its next segment. -/
theorem enter_admits (part : Value) (next : String) : Admits (enter part next) next := by
  intro items h
  cases hdigits : isPosition next with
  | true => rfl
  | false => cases part <;> simp [enter, hdigits] at h

theorem Holds.child {c v : Value} {a : String} (h : Holds c a v) : child c a = .ok v := by
  cases h with
  | member there => simp [Path.child, Members.getD, there]
  | item digits stands there => simp [Path.child, stands, there]

theorem holds_put {c c' v : Value} {a : String} (admits : Admits c a) (h : put c a v = .ok c') :
    Holds c' a v := by
  cases c with
  | object members =>
    cases h
    exact .member (Members.get?_set_self members a v)
  | list items =>
    rw [put] at h
    split at h
    · cases h
    · next i hi =>
      split at h
      · cases h
      · cases h
        exact .item (admits items rfl) hi (getElem?_putItem_self items i v)
  | _ =>
    cases h
    exact .member (by simp [Members.get?])

/-! ## What is written -/

/-- Writing at a path puts a value under its first segment: the one that is written, or the part
that was there or is made with the value written to it at the rest of the path. -/
theorem assign_cons_cases {c c' v : Value} {a : String} {p : List String}
    (h : assign c (a :: p) v = (c', none)) :
    (p = [] ∧ put c a v = .ok c') ∨
      ∃ b rest part inner, p = b :: rest ∧ child c a = .ok part ∧
        assign (enter part b) (b :: rest) v = (inner, none) ∧ put c a inner = .ok c' := by
  cases p with
  | nil =>
    rw [assign] at h
    split at h
    · cases h
    · next written hput =>
      cases h
      exact .inl ⟨rfl, hput⟩
  | cons b rest =>
    rw [assign] at h
    split at h
    · cases h
    · next part hpart =>
      dsimp only at h
      split at h
      · cases h
      · next written hput =>
        obtain ⟨rfl, hnone⟩ := Prod.mk.inj h
        exact .inr ⟨b, rest, part, _, rfl, hpart, Prod.ext rfl hnone, hput⟩

theorem exists_put_of_assign {c c' v : Value} {a : String} {p : List String}
    (h : assign c (a :: p) v = (c', none)) : ∃ x, put c a x = .ok c' := by
  rcases assign_cons_cases h with ⟨-, hput⟩ | ⟨b, rest, part, inner, -, -, -, hput⟩
  · exact ⟨v, hput⟩
  · exact ⟨inner, hput⟩

/-- Writing into an object leaves an object. -/
theorem exists_object_of_assign {members : Members} {c v : Value} {p : List String}
    (h : assign (.object members) p v = (c, none)) : ∃ written, c = .object written := by
  cases p with
  | nil =>
    cases h
    exact ⟨members, rfl⟩
  | cons a p =>
    obtain ⟨x, hput⟩ := exists_put_of_assign h
    cases hput
    exact ⟨_, rfl⟩

/-- What is written at a path is read there. -/
theorem get?_assign {c c' v : Value} {a : String} {p : List String} (admits : Admits c a)
    (h : assign c (a :: p) v = (c', none)) : get? c' (a :: p) = .ok (some v) := by
  induction p generalizing c c' a with
  | nil =>
    rcases assign_cons_cases h with ⟨-, hput⟩ | ⟨b, rest, part, inner, hp, -⟩
    · exact get?_cons_eq_some_iff.2 ⟨v, holds_put admits hput, rfl⟩
    · cases hp
  | cons b rest ih =>
    rcases assign_cons_cases h with ⟨hp, -⟩ | ⟨b', rest', part, inner, hp, -, hinner, hput⟩
    · cases hp
    · cases hp
      -- whatever was made of the part admits the next segment
      have hread := ih (enter_admits part b) hinner
      exact get?_cons_eq_some_iff.2 ⟨inner, holds_put admits hput, hread⟩

/-- A value is written into an object at a path that has segments, and by them. -/
theorem assignAt_eq_iff {target written : Members} {path : String} {w : Value} :
    assignAt target path w = (written, none) ↔
      ∃ a q, split path = .ok (a :: q) ∧
        assign (.object target) (a :: q) w = (.object written, none) := by
  unfold assignAt
  constructor
  · intro h
    split at h
    · cases h
    · cases h
    · next segments hne hsplit =>
      obtain ⟨a, q, rfl⟩ := List.exists_cons_of_ne_nil hne
      refine ⟨a, q, hsplit, ?_⟩
      split at h
      · next members fault hassign =>
        cases h
        exact hassign
      · next v fault hnot hassign =>
        cases h
        obtain ⟨members, rfl⟩ := exists_object_of_assign hassign
        exact absurd rfl (hnot members)
  · rintro ⟨a, q, hsplit, hassign⟩
    rw [hsplit]
    dsimp only
    rw [hassign]

/-! ## What is not written -/

/-- Writing at the second path spares what the first one reads: the paths go the same way up to a
container that tells them apart, which is an object with two names for them or a list with two
positions. -/
inductive Spares : Value → List String → List String → Prop
  | members {members : Members} {a b : String} {p q : List String} (ne : a ≠ b) :
      Spares (.object members) (a :: p) (b :: q)
  | items {items : List Value} {a b : String} {i : Nat} {p q : List String}
      (stands : position a = .ok i) (digits : isPosition b = true) (ne : position b ≠ .ok i) :
      Spares (.list items) (a :: p) (b :: q)
  | member {members : Members} {a : String} {v : Value} {p q : List String}
      (there : Members.get? members a = some v) (inside : Spares v p q) :
      Spares (.object members) (a :: p) (a :: q)
  | item {items : List Value} {a b : String} {i : Nat} {v : Value} {p q : List String}
      (stands : position a = .ok i) (digits : isPosition b = true) (same : position b = .ok i)
      (there : items[i]? = some v) (inside : Spares v p q) :
      Spares (.list items) (a :: p) (b :: q)

theorem not_spares_nil (c : Value) (p : List String) : ¬Spares c p [] := nofun

/-- No container gives way to another where a path is spared. -/
theorem Spares.enter_eq {c : Value} {b : String} {p q : List String} (h : Spares c p (b :: q)) :
    enter c b = c := by
  cases h with
  | members ne => rfl
  | member there inside => rfl
  | items stands digits ne => simp [enter, digits]
  | item stands digits same there inside => simp [enter, digits]

/-- Writing below a part that is spared writes into the part. -/
theorem Spares.assign_inside {c c' v w : Value} {b : String} {p q : List String}
    (inside : Spares v p q) (part : child c b = .ok v) (h : assign c (b :: q) w = (c', none)) :
    ∃ inner, assign v q w = (inner, none) ∧ put c b inner = .ok c' := by
  rcases assign_cons_cases h with ⟨rfl, -⟩ | ⟨next, rest, part', inner, rfl, hpart, hinner, hput⟩
  · exact absurd inside (not_spares_nil v p)
  · rw [part] at hpart
    cases hpart
    rw [inside.enter_eq] at hinner
    exact ⟨inner, hinner, hput⟩

theorem put_list_eq_ok {items : List Value} {c v : Value} {b : String}
    (h : put (.list items) b v = .ok c) :
    ∃ j, position b = .ok j ∧ c = .list (putItem items j v) := by
  rw [put] at h
  split at h
  · cases h
  · next j hj =>
    split at h
    · cases h
    · cases h
      exact ⟨j, hj, rfl⟩

/-- What is read at a path that is spared stays. -/
theorem get?_assign_of_spares {c c' u w : Value} {p q : List String} (spares : Spares c p q)
    (present : get? c p = .ok (some u)) (h : assign c q w = (c', none)) :
    get? c' p = .ok (some u) := by
  induction spares generalizing c' with
  | @members members a b p q ne =>
    obtain ⟨x, hput⟩ := exists_put_of_assign h
    cases hput
    rw [get?, Members.get?_set_of_ne members x ne, ← get?]
    exact present
  | @items items a b i p q stands digits ne =>
    obtain ⟨x, hput⟩ := exists_put_of_assign h
    obtain ⟨j, hj, rfl⟩ := put_list_eq_ok hput
    have hne : j ≠ i := by
      rintro rfl
      exact ne hj
    obtain ⟨v, holds, hread⟩ := get?_cons_eq_some_iff.1 present
    cases holds with
    | item digits' stands' there =>
      rw [stands] at stands'
      cases stands'
      exact get?_cons_eq_some_iff.2
        ⟨v, .item digits' stands (getElem?_putItem_of_ne there hne x), hread⟩
  | @member members a v p q there inside ih =>
    obtain ⟨v', holds, hread⟩ := get?_cons_eq_some_iff.1 present
    cases holds with
    | member there' =>
      rw [there] at there'
      cases there'
      obtain ⟨inner, hinner, hput⟩ := inside.assign_inside (Holds.member there).child h
      exact get?_cons_eq_some_iff.2
        ⟨inner, holds_put (admits_object members a) hput, ih hread hinner⟩
  | @item items a b i v p q stands digits same there inside ih =>
    obtain ⟨v', holds, hread⟩ := get?_cons_eq_some_iff.1 present
    cases holds with
    | item digits' stands' there' =>
      rw [stands] at stands'
      cases stands'
      rw [there] at there'
      cases there'
      obtain ⟨inner, hinner, hput⟩ := inside.assign_inside (Holds.item digits same there).child h
      obtain ⟨j, hj, rfl⟩ := put_list_eq_ok hput
      rw [same] at hj
      cases hj
      exact get?_cons_eq_some_iff.2
        ⟨inner, .item digits' stands (getElem?_putItem_self items i inner), ih hread hinner⟩

/-! ## Writing back -/

/-- Writing to a part of a container what is there changes nothing. -/
theorem Holds.put_eq {c v : Value} {a : String} (h : Holds c a v) : put c a v = .ok c := by
  cases h with
  | member there => rw [put, Members.set_eq_self there]
  | @item items a i v digits stands there =>
    obtain ⟨hi, hitem⟩ := List.getElem?_eq_some_iff.1 there
    have hgrowth : growthFault? (i + 1 - items.length) = none := by
      rw [Nat.sub_eq_zero_of_le hi]
      decide
    rw [put, stands]
    dsimp only
    rw [hgrowth, putItem, if_pos hi, ← hitem, List.set_getElem_self]

/-- A container with a part for a segment does not give way when a path goes on with it. -/
theorem Holds.enter_eq {c v : Value} {a : String} (h : Holds c a v) : enter c a = c := by
  cases h with
  | member there => rfl
  | item digits stands there => simp [enter, digits]

/-- Writing at a path what is read there changes nothing. -/
theorem assign_eq_self {c v : Value} {a : String} {p : List String}
    (present : get? c (a :: p) = .ok (some v)) : assign c (a :: p) v = (c, none) := by
  induction p generalizing c a with
  | nil =>
    obtain ⟨w, holds, hread⟩ := get?_cons_eq_some_iff.1 present
    cases hread
    rw [assign, holds.put_eq]
  | cons b rest ih =>
    obtain ⟨part, holds, hread⟩ := get?_cons_eq_some_iff.1 present
    obtain ⟨_, inner, -⟩ := get?_cons_eq_some_iff.1 hread
    rw [assign, holds.child]
    dsimp only
    rw [inner.enter_eq, ih hread]
    dsimp only
    rw [holds.put_eq]

/-! ## Paths that cannot be read -/

/-- A path comes to a list with a segment that looks like a position and stands for none. -/
inductive Stuck : Value → List String → Prop
  | here {items : List Value} {a : String} {p : List String} (digits : isPosition a = true)
      (odd : ∃ fault, position a = .error fault) : Stuck (.list items) (a :: p)
  | deeper {c v : Value} {a : String} {p : List String} (holds : Holds c a v) (stuck : Stuck v p) :
      Stuck c (a :: p)

theorem get?_eq_error_iff {p : List String} :
    ∀ {c : Value}, (∃ fault, get? c p = .error fault) ↔ Stuck c p := by
  induction p with
  | nil =>
    intro c
    rw [get?]
    exact ⟨nofun, nofun⟩
  | cons a p ih =>
    intro c
    constructor
    · rintro ⟨fault, h⟩
      cases c with
      | object members =>
        rw [get?] at h
        split at h
        · cases h
        · next v hv => exact .deeper (.member hv) (ih.1 ⟨fault, h⟩)
      | list items =>
        rw [get?] at h
        split at h
        · next digits =>
          split at h
          · next fault' hfault => exact .here digits ⟨fault', hfault⟩
          · next i hi =>
            split at h
            · cases h
            · next v hv => exact .deeper (.item digits hi hv) (ih.1 ⟨fault, h⟩)
        · cases h
      | _ => cases h
    · intro h
      cases h with
      | here digits odd =>
        obtain ⟨fault, hfault⟩ := odd
        exact ⟨fault, by rw [get?, if_pos digits, hfault]⟩
      | deeper holds stuck =>
        obtain ⟨fault, hfault⟩ := ih.2 stuck
        refine ⟨fault, ?_⟩
        cases holds with
        | member there =>
          rw [get?, there]
          exact hfault
        | item digits stands there =>
          rw [get?, if_pos digits, stands]
          dsimp only
          rw [there]
          exact hfault

/-- A path that cannot be read in a value: it has no segments, or is stuck. -/
def Unreadable (v : Value) (path : String) : Prop :=
  ∀ segments, split path = .ok segments → Stuck v segments

theorem lookup?_eq_error_iff {v : Value} {path : String} :
    (∃ fault, lookup? v path = .error fault) ↔ Unreadable v path := by
  unfold lookup? Unreadable
  cases split path with
  | error fault => simp
  | ok segments => simp [← get?_eq_error_iff]

/-! ## Places that cannot be written -/

/-- A segment has no place in a list: it stands for no position, or for one so far that the list has
no room to grow up to it. -/
def Unplaced (items : List Value) (a : String) : Prop :=
  ∀ i, position a = .ok i → items.length + room ≤ i

/-- Writing at a path comes to a list in which the next segment has no place. -/
inductive Blocked : Value → List String → Prop
  | here {items : List Value} {a : String} {p : List String} (unplaced : Unplaced items a) :
      Blocked (.list items) (a :: p)
  | deeper {c v : Value} {a b : String} {p : List String} (part : child c a = .ok v)
      (blocked : Blocked (enter v b) (b :: p)) : Blocked c (a :: b :: p)

theorem growthFault?_eq_none_iff {count : Nat} : growthFault? count = none ↔ count ≤ room := by
  have hroom : room = 2 ^ 29 := rfl
  have hword : twoTo 63 = 2 ^ 63 := rfl
  unfold growthFault?
  split
  · exact iff_of_false nofun (by omega)
  · split
    · exact iff_of_false nofun (by omega)
    · exact iff_of_true rfl (by omega)

/-- A container can be written wherever it is no list without a place for the segment. -/
theorem put_eq_error_iff {c v : Value} {a : String} :
    (∃ fault, put c a v = .error fault) ↔ ∃ items, c = .list items ∧ Unplaced items a := by
  cases c with
  | list items =>
    have hlist : (∃ others, Value.list items = .list others ∧ Unplaced others a) ↔
        Unplaced items a := by
      simp
    rw [hlist, put, Unplaced]
    cases position a with
    | error fault => exact iff_of_true ⟨fault, rfl⟩ nofun
    | ok i =>
      have hfar : growthFault? (i + 1 - items.length) = none ↔ ¬items.length + room ≤ i := by
        rw [growthFault?_eq_none_iff]
        omega
      dsimp only
      cases hgrowth : growthFault? (i + 1 - items.length) with
      | none =>
        exact iff_of_false nofun fun h => hfar.1 hgrowth (h i rfl)
      | some fault =>
        refine iff_of_true ⟨fault, rfl⟩ ?_
        rintro _ ⟨⟩
        exact Decidable.of_not_not fun hnear => by simp [hfar.2 hnear] at hgrowth
  | _ => simp [put]

/-- A part of a container is found wherever the container can be written. -/
theorem exists_items_of_child {c : Value} {a : String} {fault : Fault}
    (h : child c a = .error fault) : ∃ items, c = .list items ∧ Unplaced items a := by
  cases c with
  | list items =>
    rw [child] at h
    split at h
    · next other hposition =>
      refine ⟨items, rfl, fun i hi => ?_⟩
      rw [hposition] at hi
      cases hi
    · cases h
  | _ => cases h

/-- Writing fails exactly where the path is blocked, whatever is written. -/
theorem assign_fault_iff {v : Value} {p : List String} :
    ∀ {c : Value} {a : String},
      (∃ fault, (assign c (a :: p) v).2 = some fault) ↔ Blocked c (a :: p) := by
  induction p with
  | nil =>
    intro c a
    have hput : (∃ fault, (assign c [a] v).2 = some fault) ↔ ∃ fault, put c a v = .error fault := by
      rw [assign]
      cases put c a v <;> simp
    rw [hput, put_eq_error_iff]
    constructor
    · rintro ⟨items, rfl, hunplaced⟩
      exact .here hunplaced
    · intro h
      cases h with
      | here unplaced => exact ⟨_, rfl, unplaced⟩
  | cons b p ih =>
    intro c a
    rw [assign]
    cases hchild : child c a with
    | error fault =>
      obtain ⟨items, rfl, hunplaced⟩ := exists_items_of_child hchild
      exact iff_of_true ⟨fault, rfl⟩ (.here hunplaced)
    | ok part =>
      dsimp only
      cases hput : put c a (assign (enter part b) (b :: p) v).1 with
      | error fault =>
        obtain ⟨items, rfl, hunplaced⟩ := put_eq_error_iff.1 ⟨fault, hput⟩
        exact iff_of_true ⟨fault, rfl⟩ (.here hunplaced)
      | ok written =>
        dsimp only
        rw [ih]
        constructor
        · exact .deeper hchild
        · intro h
          cases h with
          | here unplaced =>
            obtain ⟨fault, herror⟩ := put_eq_error_iff.2 ⟨_, rfl, unplaced⟩
            rw [hput] at herror
            cases herror
          | deeper part' blocked =>
            cases hchild.symm.trans part'
            exact blocked

/-- Writing into an object fails exactly where the path is blocked. -/
theorem assignAt_fault_iff {target : Members} {path a : String} {p : List String} {v : Value}
    (segments : split path = .ok (a :: p)) :
    (∃ fault, (assignAt target path v).2 = some fault) ↔ Blocked (.object target) (a :: p) := by
  rw [← assign_fault_iff (v := v), assignAt, segments]
  dsimp only
  split
  · next hassign => rw [hassign]
  · next hassign => rw [hassign]

end Conduit.Path
