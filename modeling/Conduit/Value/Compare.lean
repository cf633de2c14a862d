import Conduit.Number.Basic
import Conduit.Text.Search
import Conduit.Value.Basic

/-!
# Equality and order of values

Values are compared by what they stand for: truth values count as the numbers zero and one, numbers
by their exact value, objects without regard to the order of their members. Only numbers, texts and
lists have an order; lists are ordered by their first difference. NaN differs from itself, but as a
part of lists and objects it is found again.

* `Value.equals` — equality; a handle is never known to equal anything;
* `Value.agrees` — how the parts of lists and objects are compared;
* `Value.less` — order, or the two kinds that have none;
* `Value.holds?` — membership in a text, a list or the names of an object.
-/

namespace Conduit

namespace Value

/-- The number that a value counts as in comparisons. -/
def number? : Value → Option Number
  | bool b => some (.int (if b then 1 else 0))
  | int n => some (.int n)
  | float x => some (.float x)
  | _ => none

/-- Whether two values are both NaN. -/
def areNaN : Value → Value → Bool
  | float x, float y => x.isNaN && y.isNaN
  | _, _ => false

mutual

/-- Whether two values are equal. A NaN is no equal of any value, but two of them that stand in
lists or objects at the same place count as the same NaN there. -/
def equals : Value → Value → Bool
  | null, null => true
  | str a, str b => a == b
  | list as, list bs => equalItems as bs
  | object as, object bs => as.length == bs.length && equalMembers as bs
  | a, b =>
    match a.number?, b.number? with
    | some x, some y => x.equals y
    | _, _ => false

/-- Whether two lists are equal item by item. -/
def equalItems : List Value → List Value → Bool
  | [], [] => true
  | a :: as, b :: bs => (areNaN a b || equals a b) && equalItems as bs
  | _, _ => false

/-- Whether every member is found in another object with an equal value. -/
def equalMembers : List (String × Value) → Members → Bool
  | [], _ => true
  | (key, a) :: as, bs =>
    (match bs.get? key with
      | some b => areNaN a b || equals a b
      | none => false)
      && equalMembers as bs

end

/-- Whether two parts of lists or objects count as equal. -/
def agrees (a b : Value) : Bool := areNaN a b || equals a b

/-- Two kinds of values that have no order. -/
structure Unordered where
  /-- The kind on the left of the comparison. -/
  left : String
  /-- The kind on the right of the comparison. -/
  right : String
deriving DecidableEq

mutual

/-- Whether the first value comes before the second. -/
def less : Value → Value → Except Unordered Bool
  | str a, str b => .ok (decide (a < b))
  | list as, list bs => lessItems as bs
  | a, b =>
    match a.number?, b.number? with
    | some x, some y => .ok (x.less y)
    | _, _ => .error ⟨a.kindName, b.kindName⟩

/-- Whether the first list comes before the second: the first unequal items decide, and a list comes
before its extensions. -/
def lessItems : List Value → List Value → Except Unordered Bool
  | [], [] => .ok false
  | [], _ :: _ => .ok true
  | _ :: _, [] => .ok false
  | a :: as, b :: bs => if agrees a b then lessItems as bs else less a b

end

/-- Whether two values have an order and the first comes before the second. -/
def isLess (a b : Value) : Bool :=
  match less a b with
  | .ok answer => answer
  | .error _ => false

/-- Whether `item` lies in `container`: as a part of a text, an item of a list or the name of a
member. The answer is `none` when the question makes no sense for these kinds. -/
def holds? (container item : Value) : Option Bool :=
  match container, item with
  | str s, str t => some (Text.contains s.toList t.toList)
  | list items, x => some (items.any fun y => agrees x y)
  | object _, list _ => none
  | object _, object _ => none
  | object m, str key => some (Members.has m key)
  | object _, _ => some false
  | _, _ => none

end Value

end Conduit
