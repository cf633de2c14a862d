import Conduit.Fault
import Conduit.Json.Writer
import Conduit.Text.Case

/-!
# Transforms

A mapping may change the value that it carries. Transforms are known by name and depend on the value
alone.

* `Transform.named?` — the transform of a name;
* `Transform.apply` — the changed value, or a fault.
-/

namespace Conduit

/-- The transforms that a mapping can name. -/
inductive Transform where
  /-- The text of a value. -/
  | string
  /-- A double. -/
  | number
  /-- An integer, cutting off a fraction. -/
  | integer
  /-- A truth value. -/
  | boolean
  /-- The value of a JSON document. -/
  | json
  /-- The text in lower case. -/
  | lower
  /-- The text in upper case. -/
  | upper
  /-- The text without blanks at its ends. -/
  | trim
  /-- The first item of a list. -/
  | first
  /-- The last item of a list. -/
  | last
  /-- The number of characters, items or members. -/
  | length
deriving DecidableEq, Inhabited

namespace Transform

/-- The transforms with their names. -/
def table : List (String × Transform) :=
  [("string", string), ("number", number), ("integer", integer), ("boolean", boolean),
   ("json", json), ("lower", lower), ("upper", upper), ("trim", trim), ("first", first),
   ("last", last), ("length", length)]

/-- The transform of a name. -/
def named? (name : String) : Option Transform := table.lookup name

/-- The fault of writing a value that has no line. -/
def ofLineFlaw : Json.LineFlaw → Fault
  | .handle => .notWritable Value.opaqueHandle.kindName
  | .longInteger => .longInteger

/-- The text of a value: a text stands for itself, null for the empty text, lists and objects for
their JSON document. Integers of too many digits have no text. -/
def textOf : Value → Except Fault String
  | .null => .ok ""
  | .bool b => .ok (if b then "True" else "False")
  | .int n => if Numeral.isLong n then .error .longInteger else .ok (toString n)
  | .float x => .ok x.text
  | .str s => .ok s
  | .opaqueHandle => .ok "Opaque"
  | v =>
    match Json.lineFlaw? v with
    | none => .ok ((Json.line? v).getD "")
    | some flaw => .error (ofLineFlaw flaw)

/-- The double that a value stands for. -/
def realOf : Value → Except Fault Double
  | .bool b => .ok (Double.ofRatio false (if b then 1 else 0) 1)
  | .int n =>
    match Double.ofInt? n with
    | some x => .ok x
    | none => .error .beyondDouble
  | .float x => .ok x
  | .str s =>
    match Numeral.real? s.toList with
    | some x => .ok x
    | none => .error (.notRealText s)
  | v => .error (.notReal v.kindName)

/-- The integer that a value stands for. -/
def integerOf : Value → Except Fault Int
  | .bool b => .ok (if b then 1 else 0)
  | .int n => .ok n
  | .float x =>
    match x.truncate? with
    | some n => .ok n
    | none => .error (if x.isNaN then .nanInteger else .infiniteInteger)
  | .str s =>
    match Numeral.integer s.toList with
    | .ok n => .ok n
    | .error flaw => .error (.ofNumeral s flaw)
  | v => .error (.notInteger v.kindName)

/-- The words that count as true. -/
def trueWords : List String := ["true", "1", "yes", "y", "on"]

/-- The truth value that a value stands for: a text counts as true when it is one of the words for
it. -/
def truthOf : Value → Bool
  | .str s => trueWords.contains (String.ofList (Text.lower (Text.strip s.toList)))
  | v => v.isTruthy

/-- The value of a JSON document; anything but a text stands for itself. -/
def documentOf : Value → Except Fault Value
  | .str s =>
    match Json.read s with
    | .ok v => .ok v
    | .error error => .error (.badJson error)
  | v => .ok v

/-- The number of characters of a text, items of a list or members of an object. -/
def lengthOf : Value → Except Fault Nat
  | .str s => .ok s.length
  | .list items => .ok items.length
  | .object members => .ok members.length
  | v => .error (.noLength v.kindName)

/-- Changes the text of a value. -/
def mapText (change : List Char → List Char) (v : Value) : Except Fault Value :=
  (textOf v).map fun s => .str (String.ofList (change s.toList))

/-- Applies a transform. -/
def apply : Transform → Value → Except Fault Value
  | string, v => (textOf v).map .str
  | number, v => (realOf v).map .float
  | integer, v => (integerOf v).map .int
  | boolean, v => .ok (.bool (truthOf v))
  | json, v => documentOf v
  | lower, v => mapText Text.lower v
  | upper, v => mapText Text.upper v
  | trim, v => mapText Text.strip v
  | first, .list items => .ok (items.head?.getD .null)
  | first, v => .ok v
  | last, .list items => .ok (items.getLast?.getD .null)
  | last, v => .ok v
  | length, v => (lengthOf v).map fun n => .int n

end Transform

end Conduit
