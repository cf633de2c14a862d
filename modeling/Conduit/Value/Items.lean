import Conduit.Fault

/-!
# Going through a value

* `Value.entries` — what a value is gone through by.
-/

namespace Conduit

/-- What a value is gone through by: the names of the members of an object, the items of a list, the
characters of a text. -/
def Value.entries : Value → Except Fault (List Value)
  | object members => .ok (members.map fun m => str m.1)
  | list items => .ok items
  | str s => .ok (s.toList.map fun c => str (String.singleton c))
  | v => .error (.notIterable v.kindName)

end Conduit
