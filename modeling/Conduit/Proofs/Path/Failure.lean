import Conduit.Proofs.Number.Numeral
import Conduit.Proofs.Path

/-!
# Where paths fail, and what is left

A list goes by the positions that segments stand for. Whether a segment is meant as a position is
seen by the shape of its characters, and then it is read as an integer; the two disagree about
digits by shape only and about very long numerals. Reading fails exactly where a path comes to a
list with such a segment. Writing fails there as well, also where the list has just been made, and
where the list has no room to grow. Containers are made on the way, so a failure leaves the object
as it was exactly if the path came to that list through what was there before.

* `Misleading`, `exists_position_fault_iff` — segments that look like positions and are none;
* `ComesTo`, `stuck_iff` — where reading fails;
* `enter_fst_assign`, `fst_assign_eq_self_iff` — what a failure of writing leaves;
* `fails_exactly` — both together, for paths as texts;
* `superscript_fails` — a path that is accepted and fails both ways.
-/

namespace Conduit.Path

/-! ## Segments -/

/-- A segment looks like a position and stands for none: one of its characters is a digit by its
shape only, or there are more of them than are read. -/
def Misleading (a : String) : Prop :=
  isPosition a = true ∧
    ((∃ c ∈ a.toList, Text.isDecimal c = false) ∨ Numeral.digitLimit < a.toList.length)

/-- A list has no room to grow up to the position that a segment stands for. -/
def TooFar (items : List Value) (a : String) : Prop :=
  isPosition a = true ∧ ∃ i, position a = .ok i ∧ items.length + room ≤ i

theorem exists_position_fault_iff {a : String} (digits : isPosition a = true) :
    (∃ fault, position a = .error fault) ↔ Misleading a := by
  have hdigits := digits
  rw [isPosition, Text.isDigits, Bool.and_eq_true, List.all_eq_true] at hdigits
  have hread : (∃ fault, position a = .error fault) ↔
      ∃ flaw, Numeral.integer a.toList = .error flaw := by
    rw [position]
    cases Numeral.integer a.toList <;> simp
  rw [hread, Numeral.exists_flaw_iff (by simpa using hdigits.1) hdigits.2, Misleading,
    and_iff_right digits]

/-- What looks like a position and is not misleading stands for one. -/
theorem exists_position {a : String} (digits : isPosition a = true) (stands : ¬Misleading a) :
    ∃ i, position a = .ok i := by
  cases hposition : position a with
  | ok i => exact ⟨i, rfl⟩
  | error fault => exact absurd ((exists_position_fault_iff digits).1 ⟨fault, hposition⟩) stands

theorem unplaced_iff {items : List Value} {a : String} (digits : isPosition a = true) :
    Unplaced items a ↔ Misleading a ∨ TooFar items a := by
  rw [← exists_position_fault_iff digits, TooFar, and_iff_right digits, Unplaced]
  cases position a <;> simp

/-! ## Reading -/

/-- A path comes, through what is there, to a list with a segment. -/
def ComesTo (c : Value) (p : List String) (items : List Value) (a : String) : Prop :=
  ∃ start rest, p = start ++ a :: rest ∧ get? c start = .ok (some (.list items))

theorem comesTo_cons_iff {c : Value} {p : List String} {items : List Value} {a b : String} :
    ComesTo c (b :: p) items a ↔
      (c = .list items ∧ a = b) ∨ ∃ v, Holds c b v ∧ ComesTo v p items a := by
  constructor
  · rintro ⟨start, rest, hsplit, hget⟩
    cases start with
    | nil =>
      obtain ⟨rfl, -⟩ := List.cons.inj hsplit
      cases hget
      exact .inl ⟨rfl, rfl⟩
    | cons s start =>
      obtain ⟨rfl, hp⟩ := List.cons.inj hsplit
      obtain ⟨v, holds, hread⟩ := get?_cons_eq_some_iff.1 hget
      exact .inr ⟨v, holds, start, rest, hp, hread⟩
  · rintro (⟨rfl, rfl⟩ | ⟨v, holds, start, rest, rfl, hget⟩)
    · exact ⟨[], p, rfl, rfl⟩
    · exact ⟨b :: start, rest, rfl, get?_cons_eq_some_iff.2 ⟨v, holds, hget⟩⟩

/-- Reading fails exactly where a path comes to a list with a misleading segment. -/
theorem stuck_iff {p : List String} :
    ∀ {c : Value}, Stuck c p ↔ ∃ items a, ComesTo c p items a ∧ Misleading a := by
  induction p with
  | nil =>
    intro c
    constructor
    · nofun
    · rintro ⟨items, a, ⟨start, rest, hsplit, -⟩, -⟩
      cases start <;> cases hsplit
  | cons b p ih =>
    intro c
    constructor
    · intro h
      cases h with
      | @here items _ _ digits odd =>
        exact ⟨items, b, comesTo_cons_iff.2 (.inl ⟨rfl, rfl⟩),
          (exists_position_fault_iff digits).1 odd⟩
      | deeper holds stuck =>
        obtain ⟨items, a, hcomes, hmisleading⟩ := ih.1 stuck
        exact ⟨items, a, comesTo_cons_iff.2 (.inr ⟨_, holds, hcomes⟩), hmisleading⟩
    · rintro ⟨items, a, hcomes, hmisleading⟩
      rcases comesTo_cons_iff.1 hcomes with ⟨rfl, rfl⟩ | ⟨v, holds, hcomes⟩
      · exact .here hmisleading.1 ((exists_position_fault_iff hmisleading.1).2 hmisleading)
      · exact .deeper holds (ih.2 ⟨items, a, hcomes, hmisleading⟩)

/-! ## Writing -/

/-- Writing to a container leaves one of its kind, in which the path can go on. -/
theorem enter_put {c c' v : Value} {a : String} (stays : enter c a = c) (h : put c a v = .ok c') :
    enter c' a = c' := by
  cases c with
  | object members =>
    cases h
    rfl
  | list items =>
    obtain ⟨i, -, rfl⟩ := put_list_eq_ok h
    cases hdigits : isPosition a with
    | true => simp [enter, hdigits]
    | false => simp [enter, hdigits] at stays
  | _ => cases hdigits : isPosition a <;> simp [enter, hdigits] at stays

theorem enter_enter (part : Value) (a : String) : enter (enter part a) a = enter part a := by
  cases hdigits : isPosition a <;> cases part <;> simp [enter, hdigits]

/-- What is left of a container, also by a failure, is a container in which the path can go on. -/
theorem enter_fst_assign {c v : Value} {a : String} {p : List String} (stays : enter c a = c) :
    enter (assign c (a :: p) v).1 a = (assign c (a :: p) v).1 := by
  cases p with
  | nil =>
    rw [assign]
    split
    · exact stays
    · next written hput => exact enter_put stays hput
  | cons b p =>
    rw [assign]
    split
    · exact stays
    · dsimp only
      split
      · exact stays
      · next written hput => exact enter_put stays hput

theorem isPosition_of_odd {items : List Value} {a : String}
    (odd : Misleading a ∨ TooFar items a) : isPosition a = true := by
  rcases odd with h | h
  · exact h.1
  · exact h.1

/-- A path that comes to a list with an odd segment goes on in what is there. -/
theorem enter_eq_of_comesTo {c : Value} {p items : List _} {a b : String}
    (comes : ComesTo c (b :: p) items a) (odd : Misleading a ∨ TooFar items a) : enter c b = c := by
  rcases comesTo_cons_iff.1 comes with ⟨rfl, rfl⟩ | ⟨v, holds, -⟩
  · simp [enter, isPosition_of_odd odd]
  · exact holds.enter_eq

theorem fst_assign_of_unplaced {items : List Value} {v : Value} {a : String} {p : List String}
    (unplaced : Unplaced items a) : (assign (.list items) (a :: p) v).1 = .list items := by
  have hput : ∀ x, ∃ fault, put (.list items) a x = .error fault := fun x =>
    put_eq_error_iff.2 ⟨items, rfl, unplaced⟩
  cases p with
  | nil =>
    obtain ⟨fault, hfault⟩ := hput v
    rw [assign, hfault]
  | cons b p =>
    rw [assign]
    split
    · rfl
    · next part _ =>
      obtain ⟨fault, hfault⟩ := hput (assign (enter part b) (b :: p) v).1
      dsimp only
      rw [hfault]

theorem fst_assign_eq_self_iff_of_unplaced {items : List Value} {v : Value} {a : String}
    {p : List String} (admits : Admits (.list items) a) (unplaced : Unplaced items a) :
    (assign (.list items) (a :: p) v).1 = .list items ↔
      ∃ items' b, ComesTo (.list items) (a :: p) items' b ∧ (Misleading b ∨ TooFar items' b) :=
  iff_of_true (fst_assign_of_unplaced unplaced)
    ⟨items, a, comesTo_cons_iff.2 (.inl ⟨rfl, rfl⟩), (unplaced_iff (admits items rfl)).1 unplaced⟩

/-- A failure leaves a container as it was exactly if the path came to the list at which it failed
through what was there. -/
theorem fst_assign_eq_self_iff {v : Value} {p : List String} :
    ∀ {c : Value} {a : String}, Admits c a → Blocked c (a :: p) →
      ((assign c (a :: p) v).1 = c ↔
        ∃ items b, ComesTo c (a :: p) items b ∧ (Misleading b ∨ TooFar items b)) := by
  induction p with
  | nil =>
    intro c a admits blocked
    cases blocked with
    | here unplaced => exact fst_assign_eq_self_iff_of_unplaced admits unplaced
  | cons b p ih =>
    intro c a admits blocked
    by_cases hhere : ∃ items, c = .list items ∧ Unplaced items a
    · obtain ⟨items, rfl, unplaced⟩ := hhere
      exact fst_assign_eq_self_iff_of_unplaced admits unplaced
    cases blocked with
    | here unplaced => exact absurd ⟨_, rfl, unplaced⟩ hhere
    | @deeper _ part _ _ _ hpart blocked =>
      have hstays := enter_fst_assign (v := v) (p := p) (enter_enter part b)
      have hinner := ih (enter_admits part b) blocked
      cases hput : put c a (assign (enter part b) (b :: p) v).1 with
      | error fault => exact absurd (put_eq_error_iff.1 ⟨fault, hput⟩) hhere
      | ok written =>
        have hassign : (assign c (a :: b :: p) v).1 = written := by
          rw [assign, hpart]
          dsimp only
          rw [hput]
        rw [hassign]
        constructor
        · rintro rfl
          -- the part stayed what it was, so the path went on in it and not in a fresh container
          have holds := holds_put admits hput
          have hsame := Except.ok.inj (hpart.symm.trans holds.child)
          rw [← hsame] at hstays holds
          rw [hstays] at hinner hsame
          obtain ⟨items, b', hcomes, odd⟩ := hinner.1 hsame.symm
          exact ⟨items, b', comesTo_cons_iff.2 (.inr ⟨part, holds, hcomes⟩), odd⟩
        · rintro ⟨items, b', hcomes, odd⟩
          rcases comesTo_cons_iff.1 hcomes with ⟨rfl, rfl⟩ | ⟨w, holds, hcomes⟩
          · exact absurd ⟨items, rfl, (unplaced_iff (isPosition_of_odd odd)).2 odd⟩ hhere
          obtain rfl : part = w := Except.ok.inj (hpart.symm.trans holds.child)
          rw [enter_eq_of_comesTo hcomes odd] at hinner hput
          rw [hinner.2 ⟨items, b', hcomes, odd⟩, holds.put_eq] at hput
          exact (Except.ok.inj hput).symm

/-- Writing into an object leaves an object, also when it fails. -/
theorem exists_object_of_fst_assign (target : Members) (a : String) (p : List String) (v : Value) :
    ∃ written, (assign (.object target) (a :: p) v).1 = .object written := by
  cases p with
  | nil => exact ⟨_, rfl⟩
  | cons b p => exact ⟨_, rfl⟩

theorem fst_assignAt {target : Members} {path a : String} {p : List String} {v : Value}
    (segments : split path = .ok (a :: p)) :
    (assign (.object target) (a :: p) v).1 = .object (assignAt target path v).1 := by
  obtain ⟨written, hwritten⟩ := exists_object_of_fst_assign target a p v
  rw [assignAt, segments]
  dsimp only
  split
  · next h => rw [h]
  · next hnot h =>
    rw [h] at hwritten
    exact absurd hwritten (hnot written)

/-! ## Paths as texts -/

/-- A path that is accepted is read in every value, and what is written at it in an object is read
there, with two exceptions. Reading fails exactly where the path comes to a list with a segment that
looks like a position and stands for none. Writing fails exactly where it is blocked by a list that
has no place for its segment, whether the list was there or has just been made; the object is left
as it was exactly if the path came to such a list through what was there. -/
theorem fails_exactly {path : String} {segments : List String}
    (accepted : split path = .ok segments) :
    (∀ v, (∃ fault, lookup? v path = .error fault) ↔
      ∃ items a, ComesTo v segments items a ∧ Misleading a) ∧
    (path ≠ "" → ∀ target v,
      (¬Blocked (.object target) segments →
        ∃ written, assignAt target path v = (written, none) ∧
          lookup? (.object written) path = .ok (some v)) ∧
      (Blocked (.object target) segments →
        (∃ fault, (assignAt target path v).2 = some fault) ∧
        ((assignAt target path v).1 = target ↔
          ∃ items a, ComesTo (.object target) segments items a ∧
            (Misleading a ∨ TooFar items a)))) := by
  refine ⟨fun v => ?_, fun nonempty target v => ?_⟩
  · rw [← stuck_iff, lookup?, accepted]
    exact get?_eq_error_iff
  have hne : segments ≠ [] := fun h => nonempty (split_eq_nil_iff.1 (h ▸ accepted))
  obtain ⟨a, p, rfl⟩ := List.exists_cons_of_ne_nil hne
  refine ⟨fun free => ?_, fun blocked => ⟨(assignAt_fault_iff accepted).2 blocked, ?_⟩⟩
  · cases hfault : (assignAt target path v).2 with
    | none =>
      have hwritten : assignAt target path v = ((assignAt target path v).1, none) :=
        Prod.ext rfl hfault
      obtain ⟨b, q, hsplit, hassign⟩ := assignAt_eq_iff.1 hwritten
      refine ⟨_, hwritten, ?_⟩
      rw [lookup?, hsplit]
      exact get?_assign (admits_object target b) hassign
    | some fault => exact absurd ((assignAt_fault_iff accepted).1 ⟨fault, hfault⟩) free
  · rw [← fst_assign_eq_self_iff (v := v) (admits_object target a) blocked, fst_assignAt accepted]
    exact ⟨fun h => by rw [h], fun h => Value.object.inj h⟩

/-- An object with a list of one item. -/
def single : Members := [("a", .list [.int 1])]

/-- A superscript two looks like a position and stands for none. -/
theorem misleading_superscript : Misleading "²" :=
  ⟨by decide +kernel, .inl ⟨'²', by decide +kernel, by decide +kernel⟩⟩

/-- With such a segment nothing is read in a list and nothing is written to it. A list that is there
stays, and one that is not has been made when writing fails. -/
theorem fails_exactly_superscript :
    split "a.²" = .ok ["a", "²"] ∧ "a.²" ≠ "" ∧
      (∃ fault, lookup? (.object single) "a.²" = .error fault) ∧
      (Blocked (.object single) ["a", "²"] ∧ (assignAt single "a.²" .null).1 = single) ∧
      (Blocked (.object []) ["a", "²"] ∧ ∃ fault, (assignAt [] "a.²" .null).2 = some fault) ∧
      ∃ written, assignAt [] "a.2" .null = (written, none) ∧
        lookup? (.object written) "a.2" = .ok (some .null) := by
  have hsplit : split "a.²" = .ok ["a", "²"] := by decide +kernel
  obtain ⟨hread, hwrite⟩ := fails_exactly hsplit
  have hcomes : ComesTo (.object single) ["a", "²"] [.int 1] "²" :=
    ⟨["a"], [], rfl, by decide +kernel⟩
  have hunplaced : ∀ items, Unplaced items "²" := fun items =>
    (unplaced_iff misleading_superscript.1).2 (.inl misleading_superscript)
  have hthere : Blocked (.object single) ["a", "²"] :=
    .deeper (v := .list [.int 1]) rfl (by
      rw [show enter (.list [.int 1]) "²" = .list [.int 1] by decide +kernel]
      exact .here (hunplaced _))
  have hmade : Blocked (.object []) ["a", "²"] :=
    .deeper (v := .null) rfl (by
      rw [show enter .null "²" = .list [] by decide +kernel]
      exact .here (hunplaced _))
  have hfree : ¬Blocked (.object []) ["a", "2"] := by
    have hwritten : (assign (.object []) ["a", "2"] .null).2 = none := by decide +kernel
    rw [← assign_fault_iff (v := .null), hwritten]
    exact nofun
  refine ⟨hsplit, by decide, (hread _).2 ⟨_, _, hcomes, misleading_superscript⟩, ⟨hthere, ?_⟩,
    ⟨hmade, ((hwrite (by decide) [] .null).2 hmade).1⟩,
    ((fails_exactly (by decide +kernel)).2 (by decide) [] .null).1 hfree⟩
  exact ((hwrite (by decide) single .null).2 hthere).2.2
    ⟨_, _, hcomes, .inl misleading_superscript⟩

/-- Paths that are accepted fail: reading raises instead of giving a value or nothing, and writing
raises and leaves an object that is not the one that was there. -/
theorem superscript_fails :
    split "²" = .ok ["²"] ∧ lookup? (.list [.int 1]) "²" = .error (.notIntegerText "²") ∧
      split "a.²" = .ok ["a", "²"] ∧
      assignAt [] "a.²" (.int 1) = ([("a", .list [])], some (.notIntegerText "²")) := by
  decide +kernel

end Conduit.Path
