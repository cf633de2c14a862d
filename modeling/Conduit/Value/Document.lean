import Conduit.Number.Numeral
import Conduit.Value.Basic

/-!
# Values in documents

A document cannot hold everything that a value can: infinities and NaN are left out, handles have
no place in it at all, and there is an end to how many values stand inside each other and how many
digits an integer has.

* `Value.finite` — a value without infinities and NaN;
* `Value.documentFlaw?` — what keeps a value out of a document;
* `Value.hasLongInteger` — whether a value holds an integer that is not written.
-/

namespace Conduit.Value

mutual

/-- A value with null in the place of infinities and NaN. -/
def finite : Value → Value
  | float x => if x.isFinite then float x else null
  | list items => list (finiteItems items)
  | object members => object (finiteMembers members)
  | v => v

/-- The items of a list without infinities and NaN. -/
def finiteItems : List Value → List Value
  | [] => []
  | v :: rest => finite v :: finiteItems rest

/-- The members of an object without infinities and NaN. -/
def finiteMembers : List (String × Value) → List (String × Value)
  | [] => []
  | (key, v) :: rest => (key, finite v) :: finiteMembers rest

end

/-- What keeps a value out of a document. -/
inductive DocumentFlaw where
  /-- A handle. -/
  | handle
  /-- Too many values inside each other. -/
  | depth
deriving DecidableEq, Inhabited

/-- How many values may stand inside each other in a document. -/
def documentDepth : Nat := 254

mutual

/-- What keeps a value out of a document in which `room` more values may stand inside each other,
the first flaw that is come to. -/
def documentFlaw? : Value → Nat → Option DocumentFlaw
  | _, 0 => some .depth
  | opaqueHandle, _ + 1 => some .handle
  | list items, room + 1 => itemsFlaw? items room
  | object members, room + 1 => membersFlaw? members room
  | _, _ + 1 => none

/-- What keeps the items of a list out of a document. -/
def itemsFlaw? : List Value → Nat → Option DocumentFlaw
  | [], _ => none
  | v :: rest, room => documentFlaw? v room <|> itemsFlaw? rest room

/-- What keeps the members of an object out of a document. -/
def membersFlaw? : List (String × Value) → Nat → Option DocumentFlaw
  | [], _ => none
  | (_, v) :: rest, room => documentFlaw? v room <|> membersFlaw? rest room

end

mutual

/-- Whether a value holds an integer that is not written, because it has too many digits. -/
def hasLongInteger : Value → Bool
  | int n => Numeral.isLong n
  | list items => anyLongInteger items
  | object members => anyMemberLongInteger members
  | _ => false

/-- Whether an item of a list holds such an integer. -/
def anyLongInteger : List Value → Bool
  | [] => false
  | v :: rest => hasLongInteger v || anyLongInteger rest

/-- Whether a member of an object holds such an integer. -/
def anyMemberLongInteger : List (String × Value) → Bool
  | [] => false
  | (_, v) :: rest => hasLongInteger v || anyMemberLongInteger rest

end

end Conduit.Value
