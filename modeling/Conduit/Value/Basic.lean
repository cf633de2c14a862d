import Conduit.Number.Layout

/-!
# Values

The data that flows between steps: what a JSON text can hold, and opaque handles. Objects keep their
members in order of arrival; a member that is written again keeps its place.

* `Value`, `Members` — values and the members of an object;
* `Members.get?`, `Members.set`, `Members.update`, `Members.erase` — the operations on members;
* `Value.kindName` — what a kind of value is called in messages.
-/

namespace Conduit

/-- A value that a step consumes or produces. -/
inductive Value where
  /-- The absent value. -/
  | null
  /-- A truth value. -/
  | bool (b : Bool)
  /-- An integer of any size. -/
  | int (n : Int)
  /-- A double precision number. -/
  | float (x : Double)
  /-- A text. -/
  | str (s : String)
  /-- A list. -/
  | list (items : List Value)
  /-- An object with named members. -/
  | object (members : List (String × Value))
  /-- A handle that can be passed on but not looked into or written down. -/
  | opaqueHandle
deriving Inhabited

/-- The members of an object, in order. -/
abbrev Members := List (String × Value)

namespace Members

/-- The value of the member called `key`. -/
def get? : Members → String → Option Value
  | [], _ => none
  | (k, v) :: rest, key => if k = key then some v else get? rest key

/-- Whether there is a member called `key`. -/
def has (m : Members) (key : String) : Bool := (m.get? key).isSome

/-- The value of the member called `key`, null when there is none. -/
def getD (m : Members) (key : String) : Value := (m.get? key).getD .null

/-- Writes a member: in place when the key is there, else at the end. -/
def set : Members → String → Value → Members
  | [], key, v => [(key, v)]
  | (k, w) :: rest, key, v => if k = key then (k, v) :: rest else (k, w) :: set rest key v

/-- The members without the one called `key`. -/
def erase (m : Members) (key : String) : Members := m.filter fun member => member.1 != key

/-- Writes every member of `more` into `m`. -/
def update (m more : Members) : Members :=
  more.foldl (fun acc member => acc.set member.1 member.2) m

/-- The names of the members. -/
def keys (m : Members) : List String := m.map (·.1)

/-- The members that a list of pairs stands for, a later pair overwriting an earlier one. -/
def ofPairs (pairs : List (String × Value)) : Members := update [] pairs

@[simp] theorem get?_nil (key : String) : get? [] key = none := rfl

@[simp] theorem get?_set_self (m : Members) (key : String) (v : Value) :
    (m.set key v).get? key = some v := by
  induction m with
  | nil => simp [set, get?]
  | cons member rest ih =>
    obtain ⟨k, w⟩ := member
    by_cases h : k = key <;> simp [set, get?, h, ih]

theorem get?_set_of_ne (m : Members) {key other : String} (v : Value) (h : other ≠ key) :
    (m.set key v).get? other = m.get? other := by
  induction m with
  | nil => simp [set, get?, Ne.symm h]
  | cons member rest ih =>
    obtain ⟨k, w⟩ := member
    by_cases hk : k = key
    · subst hk
      have hne : ¬ k = other := fun e => h e.symm
      simp [set, get?, hne]
    · by_cases ho : k = other
      · subst ho
        simp [set, get?, hk]
      · simp [set, get?, hk, ho, ih]

theorem set_set (m : Members) (key : String) (v w : Value) :
    (m.set key v).set key w = m.set key w := by
  induction m with
  | nil => simp [set]
  | cons member rest ih =>
    obtain ⟨k, u⟩ := member
    by_cases h : k = key <;> simp [set, h, ih]

/-- Writing a member with the value that it has changes nothing. -/
theorem set_eq_self {m : Members} {key : String} {v : Value} (there : m.get? key = some v) :
    m.set key v = m := by
  induction m with
  | nil => cases there
  | cons member rest ih =>
    obtain ⟨k, w⟩ := member
    rw [get?] at there
    rw [set]
    split at there
    · next hk =>
      cases there
      rw [if_pos hk]
    · next hk => rw [if_neg hk, ih there]

/-- Writing a member adds its name. -/
theorem has_set (m : Members) (key other : String) (v : Value) :
    (m.set key v).has other = true ↔ other = key ∨ m.has other = true := by
  by_cases h : other = key
  · subst h
    simp [has]
  · simp [has, get?_set_of_ne m v h, h]

/-- Writing several members adds their names. -/
theorem has_update (m more : Members) (name : String) :
    (m.update more).has name = true ↔ m.has name = true ∨ name ∈ more.map (·.1) := by
  rw [update]
  induction more generalizing m with
  | nil => simp
  | cons member rest ih =>
    rw [List.foldl_cons, ih, has_set, List.map_cons, List.mem_cons, or_assoc, or_left_comm]

/-- The members that pairs stand for have the names of the pairs. -/
theorem has_ofPairs (pairs : List (String × Value)) (name : String) :
    (ofPairs pairs).has name = true ↔ name ∈ pairs.map (·.1) := by
  rw [ofPairs, has_update]
  simp [has]

end Members

namespace Value

/-- What the kind of a value is called in messages. -/
def kindName : Value → String
  | null => "NoneType"
  | bool _ => "bool"
  | int _ => "int"
  | float _ => "float"
  | str _ => "str"
  | list _ => "list"
  | object _ => "dict"
  | opaqueHandle => "Opaque"

/-- The members of an object. -/
def members? : Value → Option Members
  | object m => some m
  | _ => none

/-- Whether this is an object. -/
def isObject : Value → Bool
  | object _ => true
  | _ => false

/-- Whether this is a list. -/
def isList : Value → Bool
  | list _ => true
  | _ => false

/-- Whether this is null. -/
def isNull : Value → Bool
  | null => true
  | _ => false

/-- Whether a value counts as true: zero, null and the empty text, list and object do not. -/
def isTruthy : Value → Bool
  | null => false
  | bool b => b
  | int n => n != 0
  | float x => !x.isZero
  | str s => !s.isEmpty
  | list items => !items.isEmpty
  | object m => !m.isEmpty
  | opaqueHandle => true

/-- A text, or null. -/
def ofText? : Option String → Value
  | some s => str s
  | none => null

/-- A list of texts. -/
def ofTexts (l : List String) : Value := list (l.map str)

/-- A natural number as a value. -/
def ofNat (n : Nat) : Value := int n

/-! ## Equality of values as data -/

mutual

/-- Whether two values are the same value, member by member in the same order. -/
def same : Value → Value → Bool
  | null, null => true
  | bool a, bool b => a == b
  | int a, int b => a == b
  | float a, float b => a == b
  | str a, str b => a == b
  | list a, list b => sameItems a b
  | object a, object b => sameMembers a b
  | opaqueHandle, opaqueHandle => true
  | _, _ => false

/-- Whether two lists hold the same values. -/
def sameItems : List Value → List Value → Bool
  | [], [] => true
  | a :: as, b :: bs => same a b && sameItems as bs
  | _, _ => false

/-- Whether two objects hold the same members in the same order. -/
def sameMembers : List (String × Value) → List (String × Value) → Bool
  | [], [] => true
  | (k, a) :: as, (l, b) :: bs => k == l && same a b && sameMembers as bs
  | _, _ => false

end

mutual

theorem eq_of_same : ∀ {a b : Value}, same a b = true → a = b
  | null, b, h => by cases b <;> simp_all [same]
  | bool _, b, h => by cases b <;> simp_all [same]
  | int _, b, h => by cases b <;> simp_all [same]
  | float _, b, h => by cases b <;> simp_all [same]
  | str _, b, h => by cases b <;> simp_all [same]
  | opaqueHandle, b, h => by cases b <;> simp_all [same]
  | list as, b, h => by
    cases b <;> simp [same] at h
    rw [eq_of_sameItems h]
  | object as, b, h => by
    cases b <;> simp [same] at h
    rw [eq_of_sameMembers h]

theorem eq_of_sameItems : ∀ {as bs : List Value}, sameItems as bs = true → as = bs
  | [], [], _ => rfl
  | [], _ :: _, h => by simp [sameItems] at h
  | _ :: _, [], h => by simp [sameItems] at h
  | a :: as, b :: bs, h => by
    simp [sameItems] at h
    rw [eq_of_same h.1, eq_of_sameItems h.2]

theorem eq_of_sameMembers : ∀ {as bs : List (String × Value)}, sameMembers as bs = true → as = bs
  | [], [], _ => rfl
  | [], _ :: _, h => by simp [sameMembers] at h
  | _ :: _, [], h => by simp [sameMembers] at h
  | (k, a) :: as, (l, b) :: bs, h => by
    simp [sameMembers] at h
    rw [h.1.1, eq_of_same h.1.2, eq_of_sameMembers h.2]

end

mutual

theorem same_refl : ∀ a : Value, same a a = true
  | null => rfl
  | bool _ => by simp [same]
  | int _ => by simp [same]
  | float _ => by simp [same]
  | str _ => by simp [same]
  | opaqueHandle => rfl
  | list as => by simpa [same] using sameItems_refl as
  | object as => by simpa [same] using sameMembers_refl as

theorem sameItems_refl : ∀ as : List Value, sameItems as as = true
  | [] => rfl
  | a :: as => by simp [sameItems, same_refl a, sameItems_refl as]

theorem sameMembers_refl : ∀ as : List (String × Value), sameMembers as as = true
  | [] => rfl
  | (_, a) :: as => by simp [sameMembers, same_refl a, sameMembers_refl as]

end

instance : DecidableEq Value := fun a b =>
  if h : same a b = true then .isTrue (eq_of_same h)
  else .isFalse fun e => h (e ▸ same_refl a)

end Value

end Conduit
