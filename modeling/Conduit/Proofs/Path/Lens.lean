import Conduit.Proofs.Path
import Mathlib.Data.List.Basic

/-!
# Paths as lenses

Reading and writing at a path go together as the two halves of a lens. What is written is read, and
of two values that are written one after the other only the second is left. Another path that parts
from the one that is written keeps what it reads. The container at which the two part decides: an
object keeps every other name, and a list every other position. A name that is written to a list
puts an object in its place, and nothing is read below the list any more.

* `put_put`, `assign_assign` — writing twice;
* `PartAt`, `PartAt.spares` — two paths that part at a container;
* `get?_assign_of_name` — a list that gives way to an object;
* `assignAt_lens` — the laws together, for paths as texts.
-/

namespace Conduit.Path

/-! ## Writing twice -/

theorem lt_length_putItem (items : List Value) (i : Nat) (v : Value) :
    i < (putItem items i v).length := by
  unfold putItem
  split
  · next h => rwa [List.length_set]
  · next h =>
    rw [List.length_append, List.length_append, List.length_replicate, List.length_singleton]
    omega

theorem putItem_putItem (items : List Value) (i : Nat) (v w : Value) :
    putItem (putItem items i v) i w = putItem items i w := by
  rw [putItem, if_pos (lt_length_putItem items i v)]
  unfold putItem
  split
  · exact List.set_set ..
  · next h =>
    rw [List.set_append_right _ _ (by omega), List.set_append_right _ _ (by simp)]
    simp

/-- A list that was grown up to a position need not grow for it again. -/
theorem growthFault?_putItem (items : List Value) (i : Nat) (v : Value) :
    growthFault? (i + 1 - (putItem items i v).length) = none := by
  have hlt := lt_length_putItem items i v
  rw [Nat.sub_eq_zero_of_le hlt]
  decide

/-- Whether a segment can be written does not hang on the value, and a second value takes the place
of the first. -/
theorem put_put {c c' v : Value} {a : String} (h : put c a v = .ok c') (w : Value) :
    ∃ c'', put c a w = .ok c'' ∧ put c' a w = .ok c'' := by
  cases c with
  | object members =>
    cases h
    exact ⟨_, rfl, by rw [put, Members.set_set]⟩
  | list items =>
    rw [put] at h
    split at h
    · cases h
    · next i hi =>
      split at h
      · cases h
      · next hgrowth =>
        cases h
        refine ⟨.list (putItem items i w), ?_, ?_⟩
        · rw [put, hi]
          dsimp only
          rw [hgrowth]
        · rw [put, hi]
          dsimp only
          rw [growthFault?_putItem, putItem_putItem]
  | _ =>
    cases h
    exact ⟨_, rfl, by simp [put, Members.set]⟩

/-- What was put for a segment is the part that the segment names. -/
theorem child_put {c c' v : Value} {a : String} (h : put c a v = .ok c') :
    child c' a = .ok v := by
  cases c with
  | list items =>
    obtain ⟨i, hi, rfl⟩ := put_list_eq_ok h
    rw [child, hi]
    dsimp only
    rw [getElem?_putItem_self]
    rfl
  | object members =>
    cases h
    simp [child, Members.getD]
  | _ =>
    cases h
    simp [child, Members.getD, Members.get?]

/-- A container that a path was written in stays when the path is gone again. -/
theorem enter_assign {part inner v : Value} {b : String} {rest : List String}
    (h : assign (enter part b) (b :: rest) v = (inner, none)) : enter inner b = inner := by
  have hread := get?_assign (enter_admits part b) h
  obtain ⟨_, holds, -⟩ := get?_cons_eq_some_iff.1 hread
  exact holds.enter_eq

theorem assign_cons_cons {c c' part inner w : Value} {a b : String} {rest : List String}
    (hpart : child c a = .ok part) (hinner : assign (enter part b) (b :: rest) w = (inner, none))
    (hput : put c a inner = .ok c') : assign c (a :: b :: rest) w = (c', none) := by
  rw [assign, hpart]
  dsimp only
  rw [hinner]
  dsimp only
  rw [hput]

/-- Writing a second value at a path is writing it alone. -/
theorem assign_assign {c c' v : Value} {p : List String} (h : assign c p v = (c', none))
    (w : Value) : ∃ c'', assign c p w = (c'', none) ∧ assign c' p w = (c'', none) := by
  induction p generalizing c c' with
  | nil =>
    cases h
    exact ⟨c, rfl, rfl⟩
  | cons a p ih =>
    rcases assign_cons_cases h with ⟨rfl, hput⟩ | ⟨b, rest, part, inner, rfl, hpart, hinner, hput⟩
    · obtain ⟨c'', hfirst, hsecond⟩ := put_put hput w
      exact ⟨c'', by rw [assign, hfirst], by rw [assign, hsecond]⟩
    · obtain ⟨inner', hfirst, hsecond⟩ := ih hinner
      obtain ⟨c'', hput', hput''⟩ := put_put hput inner'
      -- the second time the path goes on in what the first time left
      rw [← enter_assign hinner] at hsecond
      exact ⟨c'', assign_cons_cons hpart hfirst hput',
        assign_cons_cons (child_put hput) hsecond hput''⟩

/-! ## Paths that part -/

/-- Two paths go the same way through a value, `c`, up to a container, and then on with the segments
`a` and `b`. -/
structure PartAt (c : Value) (p q : List String) (container : Value) (a b : String) : Prop where
  ne : a ≠ b
  ways : ∃ start p' q', p = start ++ a :: p' ∧ q = start ++ b :: q' ∧
    get? c start = .ok (some container)

/-- Writing to the segment `b` of a container reaches what is there for the segment `a`: the
container is a list, and `b` is no position or that of `a`. -/
def Reaches (container : Value) (a b : String) : Prop :=
  ∃ items, container = .list items ∧ (isPosition b = false ∨ position b = position a)

theorem Holds.admits {c v : Value} {a : String} (h : Holds c a v) : Admits c a := by
  rintro items rfl
  cases h with
  | item digits stands there => exact digits

/-- A path is read on from what its first segment names. -/
theorem Holds.get?_cons {c v : Value} {a : String} (h : Holds c a v) (p : List String) :
    get? c (a :: p) = get? v p := by
  cases h with
  | member there => rw [get?, there]
  | item digits stands there =>
    rw [get?, if_pos digits, stands]
    dsimp only
    rw [there]

/-- Writing at a path spares another from which it parts at a container that it does not reach the
other through. -/
theorem spares_of_part {container u : Value} {a b : String} {p q : List String} (ne : a ≠ b)
    (apart : ¬Reaches container a b) (start : List String) :
    ∀ {c : Value}, get? c start = .ok (some container) →
      get? c (start ++ a :: p) = .ok (some u) → Spares c (start ++ a :: p) (start ++ b :: q) := by
  induction start with
  | nil =>
    rintro c ⟨⟩ present
    obtain ⟨v, holds, -⟩ := get?_cons_eq_some_iff.1 present
    cases holds with
    | member there => exact .members ne
    | @item items a i v digits stands there =>
      have hdigits : isPosition b = true := by
        cases hb : isPosition b with
        | true => rfl
        | false => exact absurd ⟨items, rfl, .inl hb⟩ apart
      exact .items stands hdigits fun same => apart ⟨items, rfl, .inr (same.trans stands.symm)⟩
  | cons s start ih =>
    intro c way present
    obtain ⟨v, holds, hway⟩ := get?_cons_eq_some_iff.1 way
    rw [List.cons_append, holds.get?_cons] at present
    have inside := ih hway present
    cases holds with
    | member there => exact .member there inside
    | item digits stands there => exact .item stands digits stands there inside

theorem PartAt.spares {c container u : Value} {p q : List String} {a b : String}
    (h : PartAt c p q container a b) (apart : ¬Reaches container a b)
    (present : get? c p = .ok (some u)) : Spares c p q := by
  obtain ⟨start, p', q', rfl, rfl, way⟩ := h.ways
  exact spares_of_part h.ne apart start way present

/-- What is written to an empty object is all that it has. -/
theorem get?_assign_empty {c v : Value} {a b : String} {p q : List String} (ne : a ≠ b)
    (h : assign (.object []) (b :: q) v = (c, none)) : get? c (a :: p) = .ok none := by
  obtain ⟨x, hput⟩ := exists_put_of_assign h
  cases hput
  simp [get?, Members.set, Members.get?, ne.symm]

/-- A name that is written to a list puts an object in its place, and nothing is read below the list
any more. -/
theorem get?_assign_of_name {items : List Value} {v : Value} {a b : String} {p q : List String}
    (ne : a ≠ b) (name : isPosition b = false) (start : List String) :
    ∀ {c c' : Value} {s : String}, get? c (s :: start) = .ok (some (.list items)) →
      assign c (s :: start ++ b :: q) v = (c', none) →
        get? c' (s :: start ++ a :: p) = .ok none := by
  induction start with
  | nil =>
    intro c c' s way h
    obtain ⟨part, holds, hpart⟩ := get?_cons_eq_some_iff.1 way
    cases hpart
    rcases assign_cons_cases h with ⟨hnil, -⟩ | ⟨_, _, part, inner, hp, hpart, hinner, hput⟩
    · cases hnil
    · cases hp
      rw [holds.child] at hpart
      cases hpart
      rw [enter, if_neg (by simp [name])] at hinner
      exact ((holds_put holds.admits hput).get?_cons _).trans (get?_assign_empty ne hinner)
  | cons s' start ih =>
    intro c c' s way h
    obtain ⟨part, holds, hway⟩ := get?_cons_eq_some_iff.1 way
    obtain ⟨_, holds', -⟩ := get?_cons_eq_some_iff.1 hway
    rcases assign_cons_cases h with ⟨hnil, -⟩ | ⟨_, _, part', inner, hp, hpart, hinner, hput⟩
    · cases hnil
    · cases hp
      rw [holds.child] at hpart
      cases hpart
      rw [holds'.enter_eq] at hinner
      exact ((holds_put holds.admits hput).get?_cons _).trans (ih hway hinner)

/-! ## The laws -/

/-- What is written at a path is read there; of two values written one after the other only the
second is left; and another path that parts from the one that is written keeps what it reads, unless
it is reached through a list. A list that a name is written to gives way to an object. -/
theorem assignAt_lens {target written : Members} {path : String} {v : Value}
    (h : assignAt target path v = (written, none)) :
    lookup? (.object written) path = .ok (some v) ∧
      (∀ w, ∃ again, assignAt target path w = (again, none) ∧
        assignAt written path w = (again, none)) ∧
      ∀ other u p q container a b, split path = .ok q → split other = .ok p →
        lookup? (.object target) other = .ok (some u) →
        PartAt (.object target) p q container a b →
          (¬Reaches container a b → lookup? (.object written) other = .ok (some u)) ∧
          (container.isList = true → isPosition b = false →
            lookup? (.object written) other = .ok none) := by
  obtain ⟨s, rest, hsplit, hassign⟩ := assignAt_eq_iff.1 h
  refine ⟨?_, fun w => ?_, fun other u p q container a b hq hp present parts => ?_⟩
  · unfold lookup?
    rw [hsplit]
    exact get?_assign (admits_object target s) hassign
  · obtain ⟨c, hfirst, hsecond⟩ := assign_assign hassign w
    obtain ⟨again, rfl⟩ := exists_object_of_assign hfirst
    exact ⟨again, assignAt_eq_iff.2 ⟨s, rest, hsplit, hfirst⟩,
      assignAt_eq_iff.2 ⟨s, rest, hsplit, hsecond⟩⟩
  · unfold lookup? at present ⊢
    rw [hp] at present ⊢
    rw [hsplit] at hq
    cases hq
    dsimp only at present ⊢
    refine ⟨fun apart => get?_assign_of_spares (parts.spares apart present) present hassign, ?_⟩
    intro list name
    obtain ⟨start, p', q', rfl, hway, way⟩ := parts.ways
    rw [hway] at hassign
    cases container with
    | list items =>
      cases start with
      | nil => cases way
      | cons s' start => exact get?_assign_of_name parts.ne name start way hassign
    | _ => cases list

/-- An object with a list that holds a text and an object. -/
def shelf : Members := [("a", .object [("l", .list [.str "first", .object [("x", .int 2)]])])]

/-- The same object with an item beyond the end of the list. -/
def longerShelf : Members :=
  [("a", .object [("l", .list [.str "first", .object [("x", .int 2)], .null,
    .object [("y", .str "new")]])])]

/-- The list grows for the new item, which is read at its place and gives way to another value
there; the item of another position keeps what it holds. -/
theorem assignAt_lens_longerShelf :
    assignAt shelf "a.l[3].y" (.str "new") = (longerShelf, none) ∧
      lookup? (.object longerShelf) "a.l[3].y" = .ok (some (.str "new")) ∧
      (∃ again, assignAt shelf "a.l[3].y" .null = (again, none) ∧
        assignAt longerShelf "a.l[3].y" .null = (again, none)) ∧
      lookup? (.object longerShelf) "a.l.1.x" = .ok (some (.int 2)) := by
  have hassign : assignAt shelf "a.l[3].y" (.str "new") = (longerShelf, none) := by decide +kernel
  obtain ⟨hread, hagain, hother⟩ := assignAt_lens hassign
  refine ⟨hassign, hread, hagain .null, ?_⟩
  have hpart : PartAt (.object shelf) ["a", "l", "1", "x"] ["a", "l", "3", "y"]
      (.list [.str "first", .object [("x", .int 2)]]) "1" "3" :=
    ⟨by decide, ["a", "l"], ["x"], ["y"], rfl, rfl, by decide +kernel⟩
  refine (hother "a.l.1.x" (.int 2) _ _ _ _ _ (by decide +kernel) (by decide +kernel)
    (by decide +kernel) hpart).1 ?_
  rintro ⟨items, -, hname | hsame⟩
  · exact absurd hname (by decide +kernel)
  · exact absurd hsame (by decide +kernel)

end Conduit.Path
