import Conduit.Text.Quoted
import Conduit.Value.Basic

/-!
# Showing values

* `Value.shown` — a value as it is shown in messages: texts between single quotes, members in order.
-/

namespace Conduit.Value

mutual

/-- A value as it is shown in messages. -/
def shown : Value → String
  | null => "None"
  | bool b => if b then "True" else "False"
  | int n => toString n
  | float x => x.text
  | str s => Text.quoted s
  | list items => "[" ++ ", ".intercalate (shownItems items) ++ "]"
  | object members => "\x7b" ++ ", ".intercalate (shownMembers members) ++ "\x7d"
  | opaqueHandle => "Opaque"

/-- The items of a list as they are shown. -/
def shownItems : List Value → List String
  | [] => []
  | v :: rest => shown v :: shownItems rest

/-- The members of an object as they are shown. -/
def shownMembers : List (String × Value) → List String
  | [] => []
  | (key, v) :: rest => (Text.quoted key ++ ": " ++ shown v) :: shownMembers rest

end

end Conduit.Value
