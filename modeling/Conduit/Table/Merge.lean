/-!
# Merging sorted runs

Merges two sorted runs by a comparison that may fail. The items are compared in a fixed order, so
that it is also fixed which failure is met first: the ends that are in their places already are left
out, and then the runs are merged from the side of the shorter one. That goes one by one, and by
leaps as long as many items of one run come before the next one of the other.

* `leading` — how many items at the start pass a test;
* `merge` — the merged run. Of equal items those of the first run come first.
-/

namespace Conduit.Table

variable {α ε : Type}

/-- A comparing that may fail. It keeps how many items of one run must come in a row before leaps
are tried. -/
abbrev Comparing (ε : Type) := StateT Nat (Except ε)

/-- How many items make a leap worth its while. -/
def leapLength : Nat := 7

/-! ## Searching -/

/-- The first place between `low` and `high` where a test fails, when it fails everywhere after.
`fuel` bounds the number of halvings; the middle of two places is the lower one if `lower` is
set. -/
def halve (lower : Bool) (test : α → Except ε Bool) (items : List α) :
    Nat → Nat → Nat → Except ε Nat
  | 0, low, _ => .ok low
  | fuel + 1, low, high =>
    if low < high then
      let middle := low + (high - low - if lower then 1 else 0) / 2
      match items[middle]? with
      | none => .ok low
      | some x => do
        if ← test x then halve lower test items fuel (middle + 1) high
        else halve lower test items fuel low middle
    else .ok low

/-- Tries the places `high`, `2 * high + 1` and so on: the last one that passes a test, `low` if
there is none, and the first one that does not, or the end. -/
def stretch (test : α → Except ε Bool) (items : List α) : Nat → Nat → Nat → Except ε (Nat × Nat)
  | 0, low, high => .ok (low, min high items.length)
  | fuel + 1, low, high =>
    match items[high]? with
    | none => .ok (low, items.length)
    | some x => do
      if ← test x then stretch test items fuel high (2 * high + 1) else return (low, high)

/-- How many items at the start of a list pass a test, when it fails for all items after them. -/
def leading (lower : Bool) (test : α → Except ε Bool) (items : List α) : Except ε Nat :=
  match items with
  | [] => .ok 0
  | x :: _ => do
    if ← test x then
      let (low, high) ← stretch test items items.length 0 1
      halve lower test items items.length (low + 1) high
    else return 0

/-! ## The front of a merge -/

/-- How far two runs are merged. -/
structure Front (α : Type) where
  /-- What is left of the shorter run. Its items go first among equal ones. -/
  short : List α
  /-- What is left of the longer run. -/
  long : List α
  /-- What is merged, the last item first. -/
  merged : List α

namespace Front

/-- Whether the places of all items that are left are known: the last item of the shorter run goes
behind all others. -/
def isOver (f : Front α) : Bool := f.long.isEmpty || decide (f.short.length ≤ 1)

/-- All items in their order, once the merge is over. -/
def items (f : Front α) : List α := f.merged.reverse ++ (f.long ++ f.short)

/-- Moves items of the shorter run. -/
def moveShort (f : Front α) (count : Nat) : Front α :=
  { f with
    short := f.short.drop count
    merged := (f.short.take count).reverse ++ f.merged }

/-- Moves items of the longer run. -/
def moveLong (f : Front α) (count : Nat) : Front α :=
  { f with
    long := f.long.drop count
    merged := (f.long.take count).reverse ++ f.merged }

/-- Moves the items of the shorter run that come before the next one of the longer run, and then
that one. The number of the former is given back too. -/
def leapShort (ahead : α → α → Except ε Bool) (lower : Bool) (f : Front α) :
    Except ε (Nat × Front α) :=
  match f.long with
  | [] => .ok (0, f)
  | next :: _ =>
    if f.isOver then .ok (0, f)
    else do
      let count ← leading lower (fun x => return !(← ahead next x)) f.short
      let f := f.moveShort count
      return (count, if f.isOver then f else f.moveLong 1)

/-- Moves the items of the longer run that come before the next one of the shorter run, and then
that one. The number of the former is given back too. -/
def leapLong (ahead : α → α → Except ε Bool) (lower : Bool) (f : Front α) :
    Except ε (Nat × Front α) :=
  match f.short with
  | [] => .ok (0, f)
  | next :: _ =>
    if f.isOver then .ok (0, f)
    else do
      let count ← leading lower (fun y => ahead y next) f.long
      let f := f.moveLong count
      return (count, if f.isOver then f else f.moveShort 1)

/-- A leap in both runs, in the longer one first if `lower` is set. -/
def leap (ahead : α → α → Except ε Bool) (lower : Bool) (f : Front α) :
    Except ε (Nat × Front α) := do
  let (m, f) ← if lower then leapLong ahead lower f else leapShort ahead lower f
  let (n, f) ← if lower then leapShort ahead lower f else leapLong ahead lower f
  return (max m n, f)

end Front

/-- How a merge goes on. -/
inductive Pace where
  /-- One by one, after so many items in a row from the shorter run, and from the longer one. -/
  | single (fromShort fromLong : Nat)
  /-- By leaps. -/
  | leaping

/-- Goes on with a merge until it is over. `ahead` says whether an item of the longer run comes
before one of the shorter run; `fuel` bounds the number of moves. -/
def advance (ahead : α → α → Except ε Bool) (lower : Bool) :
    Nat → Pace → Front α → Comparing ε (Front α)
  | 0, _, f => return f
  | fuel + 1, .single fromShort fromLong, f =>
    match f.short, f.long with
    | x :: _, y :: _ => do
      let isAhead ← ahead y x
      let f := if isAhead then f.moveLong 1 else f.moveShort 1
      let fromShort := if isAhead then 0 else fromShort + 1
      let fromLong := if isAhead then fromLong + 1 else 0
      let patience ← get
      if f.isOver then return f
      else if patience ≤ max fromShort fromLong then
        set (patience + 1)
        advance ahead lower fuel .leaping f
      else advance ahead lower fuel (.single fromShort fromLong) f
    | _, _ => return f
  | fuel + 1, .leaping, f => do
    modify fun patience => if 1 < patience then patience - 1 else patience
    let (count, f) ← f.leap ahead lower
    if f.isOver then return f
    else if leapLength ≤ count then advance ahead lower fuel .leaping f
    else
      modify (· + 1)
      advance ahead lower fuel (.single 0 0) f

/-- Merges two runs of which the first item of the longer one comes first of all. -/
def mergeFrom (ahead : α → α → Except ε Bool) (lower : Bool) (short long : List α) :
    Comparing ε (List α) := do
  let start := Front.moveLong ⟨short, long, []⟩ 1
  if start.isOver then return start.items
  else return (← advance ahead lower (short.length + long.length) (.single 0 0) start).items

/-- Merges two sorted runs. -/
def merge (less : α → α → Except ε Bool) (a b : List α) : Comparing ε (List α) := do
  match b with
  | [] => return a
  | least :: _ =>
    let below ← leading false (fun x => return !(← less least x)) a
    let left := a.drop below
    match left.getLast? with
    | none => return a ++ b
    | some greatest =>
      let above ← leading true (fun y => return !(← less y greatest)) b.reverse
      let right := b.take (b.length - above)
      let middle ←
        if right.isEmpty then pure left
        else if left.length ≤ right.length then mergeFrom less false left right
        else
          List.reverse <$> mergeFrom (fun y x => less x y) true right.reverse left.reverse
      return a.take below ++ (middle ++ b.drop (b.length - above))

end Conduit.Table
