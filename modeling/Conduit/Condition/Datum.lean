import Conduit.Number.Complex
import Conduit.Number.Residue
import Conduit.Transform

/-!
# Data of conditions

What the expressions of a condition work with: the values of the library, and beside them complex
numbers, tuples, sets, tables with keys of any kind, functions and methods.

NaN differs from itself, but a collection finds the same NaN again that was put into it. So every
NaN has an origin: those of the given values share one, and each one that an operation makes has its
own.

* `Datum.equals`, `Datum.ordered?` — equality and order;
* `Datum.agrees` — how the items of collections are compared;
* `Datum.isTruthy` — what counts as true;
* `Datum.shown` — the text of a datum;
* `Datum.ofValue` — the datum of a value.
-/

namespace Conduit.Condition

/-- The functions that a condition can call by name. -/
inductive Builtin where
  /-- The integer of a number or a numeral. -/
  | integer
  /-- The double of a number or a numeral. -/
  | real
  /-- The text of a datum. -/
  | text
  /-- The number of parts of a datum. -/
  | size
deriving DecidableEq

/-- The methods that a condition can call on a datum. -/
inductive Method where
  /-- The entry of a table, or a default. -/
  | get
  /-- The text in lower case. -/
  | lower
  /-- The text in upper case. -/
  | upper
  /-- Whether a text begins with another. -/
  | startsWith
  /-- Whether a text ends with another. -/
  | endsWith
  /-- The text without some characters at its ends. -/
  | strip
  /-- The pieces of a text. -/
  | split
  /-- How often something occurs. -/
  | count
  /-- Where something occurs first. -/
  | index
deriving DecidableEq

/-- The methods with their names. -/
def Method.table : List (String × Method) :=
  [("get", get), ("lower", lower), ("upper", upper), ("startswith", startsWith),
   ("endswith", endsWith), ("strip", strip), ("split", split), ("count", count), ("index", index)]

/-- What an expression of a condition stands for. -/
inductive Datum where
  /-- The absent value. -/
  | null
  /-- A truth value. -/
  | bool (b : Bool)
  /-- An integer. -/
  | int (n : Int)
  /-- A double. -/
  | float (x : Double)
  /-- NaN, with its origin. -/
  | nan (origin : Nat)
  /-- A complex number. -/
  | complex (z : Complex)
  /-- A text. -/
  | str (s : List Char)
  /-- A list. -/
  | list (items : List Datum)
  /-- A tuple. -/
  | tuple (items : List Datum)
  /-- A set, without two equal items. -/
  | set (items : List Datum)
  /-- A table, without two equal keys. -/
  | dict (entries : List (Datum × Datum))
  /-- A handle. -/
  | handle
  /-- A function. -/
  | function (f : Builtin)
  /-- A method of a datum. -/
  | method (receiver : Datum) (m : Method)
deriving Inhabited

namespace Datum

/-- The number that a datum counts as. -/
def number? : Datum → Option Number
  | bool b => some (.int (if b then 1 else 0))
  | int n => some (.int n)
  | float x => some (.float x)
  | nan _ => some (.float .nan)
  | _ => none

/-- The complex number that a datum counts as; an integer beyond the largest double has none. -/
def complex? : Datum → Option Complex
  | complex z => some z
  | d => d.number?.bind Number.toComplex?

/-- A number as a datum. -/
def ofNumber : Number → Datum
  | .int n => int n
  | .float x => float x

/-- The integer that a datum counts as where a position or a count is wanted. -/
def index? : Datum → Option Int
  | bool b => some (if b then 1 else 0)
  | int n => some n
  | _ => none

/-- Whether a datum counts as true. -/
def isTruthy : Datum → Bool
  | null => false
  | bool b => b
  | int n => n != 0
  | float x => !x.isZero
  | nan _ => true
  | complex z => !z.isZero
  | str s => !s.isEmpty
  | list items => !items.isEmpty
  | tuple items => !items.isEmpty
  | set items => !items.isEmpty
  | dict entries => !entries.isEmpty
  | handle => true
  | function _ => true
  | method _ _ => true

/-- Whether two data are one and the same NaN. -/
def isSameNaN : Datum → Datum → Bool
  | nan a, nan b => a == b
  | _, _ => false

mutual

/-- Whether two data are equal. -/
def equals : Datum → Datum → Bool
  | null, null => true
  | complex a, complex b => a.equals b
  | complex a, b => b.number?.any a.equalsNumber
  | a, complex b => a.number?.any b.equalsNumber
  | str a, str b => a == b
  | list as, list bs => equalItems as bs
  | tuple as, tuple bs => equalItems as bs
  | set as, set bs => as.length == bs.length && allAmong as bs
  | dict as, dict bs => as.length == bs.length && allEntries as bs
  | handle, handle => true
  | function f, function g => f == g
  | method a m, method b n => m == n && equals a b
  | a, b =>
    match a.number?, b.number? with
    | some x, some y => x.equals y
    | _, _ => false

/-- Whether two lists are equal item by item. -/
def equalItems : List Datum → List Datum → Bool
  | [], [] => true
  | a :: as, b :: bs => (isSameNaN a b || equals a b) && equalItems as bs
  | _, _ => false

/-- Whether every item agrees with some item of another list. -/
def allAmong : List Datum → List Datum → Bool
  | [], _ => true
  | a :: as, bs => (bs.any fun b => isSameNaN a b || equals a b) && allAmong as bs

/-- Whether every entry is found in another table. -/
def allEntries : List (Datum × Datum) → List (Datum × Datum) → Bool
  | [], _ => true
  | (key, a) :: as, bs =>
    (match bs.find? fun entry => isSameNaN key entry.1 || equals key entry.1 with
      | some entry => isSameNaN a entry.2 || equals a entry.2
      | none => false)
      && allEntries as bs

end

/-- Whether two items of collections count as equal. -/
def agrees (a b : Datum) : Bool := isSameNaN a b || equals a b

/-- Whether an item agrees with one of a list. -/
def isAmong (item : Datum) (items : List Datum) : Bool := items.any (agrees item)

mutual

/-- Whether a datum can be an item of a set or a key of a table. -/
def isKey : Datum → Bool
  | list _ => false
  | set _ => false
  | dict _ => false
  | tuple items => areKeys items
  | _ => true

/-- Whether all data can be keys. -/
def areKeys : List Datum → Bool
  | [] => true
  | d :: rest => isKey d && areKeys rest

end

/-- The four comparisons of order. -/
inductive Order where
  /-- Before. -/
  | lt
  /-- Before or equal. -/
  | le
  /-- After. -/
  | gt
  /-- After or equal. -/
  | ge
deriving DecidableEq

/-- Whether a comparison allows an ordering. -/
def Order.allows : Order → Ordering → Bool
  | lt, o => o == .lt
  | le, o => o != .gt
  | gt, o => o == .gt
  | ge, o => o != .lt

/-- The order of two texts, character by character. -/
def compareTexts : List Char → List Char → Ordering
  | [], [] => .eq
  | [], _ :: _ => .lt
  | _ :: _, [] => .gt
  | a :: as, b :: bs => if a = b then compareTexts as bs else compare a.toNat b.toNat

mutual

/-- Whether a comparison of order holds, or `none` when these kinds have no order. Sets are ordered
by inclusion, lists and tuples by their first difference. -/
def ordered? (op : Order) : Datum → Datum → Option Bool
  | str a, str b => some (op.allows (compareTexts a b))
  | list as, list bs => orderedItems? op as bs
  | tuple as, tuple bs => orderedItems? op as bs
  | set as, set bs =>
    let below := as.all fun a => isAmong a bs
    let above := bs.all fun b => isAmong b as
    some (match op with
      | .lt => below && !above
      | .le => below
      | .gt => above && !below
      | .ge => above)
  | a, b =>
    match a.number?, b.number? with
    | some x, some y =>
      some (match x.compare? y with
        | some o => op.allows o
        | none => false)
    | _, _ => none

/-- Whether a comparison of order holds between two lists of items. -/
def orderedItems? (op : Order) : List Datum → List Datum → Option Bool
  | [], [] => some (op.allows .eq)
  | [], _ :: _ => some (op.allows .lt)
  | _ :: _, [] => some (op.allows .gt)
  | a :: as, b :: bs => if agrees a b then orderedItems? op as bs else ordered? op a b

end

/-- The entry of a key. -/
def under? (entries : List (Datum × Datum)) (key : Datum) : Option Datum :=
  (entries.find? fun e => agrees key e.1).map (·.2)

/-- Writes an entry, in place when the key is there. -/
def setEntry : List (Datum × Datum) → Datum → Datum → List (Datum × Datum)
  | [], key, d => [(key, d)]
  | (k, old) :: rest, key, d =>
    if agrees k key then (k, d) :: rest else (k, old) :: setEntry rest key d

/-- Adds an item to a set. -/
def addItem (items : List Datum) (d : Datum) : List Datum :=
  if isAmong d items then items else items ++ [d]

/-- The residue that decides where a datum comes in a set. -/
def residue? (d : Datum) : Option Int := d.number?.bind Number.residue?

/-- The parts that a datum is gone through by. -/
def parts? : Datum → Option (List Datum)
  | str s => some (s.map fun c => str [c])
  | list items => some items
  | tuple items => some items
  | set items => some (Number.inPlaces residue? items)
  | dict entries => some (entries.map (·.1))
  | _ => none

/-- The text of a function. -/
def shownFunction : Builtin → String
  | .integer => "<class 'int'>"
  | .real => "<class 'float'>"
  | .text => "<class 'str'>"
  | .size => "<built-in function len>"

mutual

/-- The text of a datum as it stands inside other data. -/
def shown : Datum → String
  | null => "None"
  | bool b => if b then "True" else "False"
  | int n => toString n
  | float x => x.text
  | nan _ => Double.nan.text
  | complex z => z.text
  | str s => String.ofList (Text.quotedChars s)
  | list items => "[" ++ ", ".intercalate (shownItems items) ++ "]"
  | tuple [item] => "(" ++ shown item ++ ",)"
  | tuple items => "(" ++ ", ".intercalate (shownItems items) ++ ")"
  | set [] => "set()"
  | set items =>
    let found := Number.inPlaces (fun p => residue? p.1) (items.zip (shownItems items))
    "\x7b" ++ ", ".intercalate (found.map (·.2)) ++ "\x7d"
  | dict entries => "\x7b" ++ ", ".intercalate (shownEntries entries) ++ "\x7d"
  | handle => "Opaque"
  | function f => shownFunction f
  | method _ _ => "<built-in method>"

/-- The texts of items. -/
def shownItems : List Datum → List String
  | [] => []
  | d :: rest => shown d :: shownItems rest

/-- The texts of entries. -/
def shownEntries : List (Datum × Datum) → List String
  | [] => []
  | (key, d) :: rest => (shown key ++ ": " ++ shown d) :: shownEntries rest

end

mutual

/-- Whether a datum has a text: its integers have no more digits than are written. -/
def isShowable : Datum → Bool
  | int n => decide (n.natAbs < tenTo Numeral.digitLimit)
  | list items => areShowable items
  | tuple items => areShowable items
  | set items => areShowable items
  | dict entries => areEntriesShowable entries
  | _ => true

/-- Whether all data have a text. -/
def areShowable : List Datum → Bool
  | [] => true
  | d :: rest => isShowable d && areShowable rest

/-- Whether all entries have a text. -/
def areEntriesShowable : List (Datum × Datum) → Bool
  | [] => true
  | (key, d) :: rest => isShowable key && isShowable d && areEntriesShowable rest

end

/-- The text of a datum, if it has one: a text stands for itself. -/
def display? : Datum → Option (List Char)
  | str s => some s
  | d => if d.isShowable then some (shown d).toList else none

mutual

/-- The datum of a value. All NaN of the given values have one origin. -/
def ofValue : Value → Datum
  | .null => null
  | .bool b => bool b
  | .int n => int n
  | .float x => if x.isNaN then nan 0 else float x
  | .str s => str s.toList
  | .list items => list (ofItems items)
  | .object members => dict (ofMembers members)
  | .opaqueHandle => handle

/-- The data of the items of a list. -/
def ofItems : List Value → List Datum
  | [] => []
  | v :: rest => ofValue v :: ofItems rest

/-- The entries of the members of an object. -/
def ofMembers : List (String × Value) → List (Datum × Datum)
  | [] => []
  | (key, v) :: rest => (str key.toList, ofValue v) :: ofMembers rest

end

end Datum

end Conduit.Condition
