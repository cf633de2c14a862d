import Conduit.Fault

/-!
# Paths into values

A path such as `data.items.0.title` or `data.items[0].title` names a place inside a value. Its
segments are the names of members and the positions in lists; the empty path names the whole value.

* `Path.split` — the segments of a path;
* `Path.get?` — the value at a place;
* `Path.assign` — writes a value at a place and makes the containers on the way;
* `Path.head` — the member that a path reads or writes.
-/

namespace Conduit.Path

/-- Writes positions in brackets as segments of their own: `[12]` becomes `.12`. -/
def unbracket (s : List Char) : List Char :=
  match s with
  | [] => []
  | '[' :: rest =>
    match _h : rest.dropWhile Text.isDecimal with
    | ']' :: after =>
      if (rest.takeWhile Text.isDecimal).isEmpty then '[' :: unbracket rest
      else '.' :: (rest.takeWhile Text.isDecimal ++ unbracket after)
    | _ => '[' :: unbracket rest
  | c :: rest => c :: unbracket rest
termination_by s.length
decreasing_by
  all_goals
    try simp
  have h1 : (rest.dropWhile Text.isDecimal).length ≤ rest.length :=
    (List.dropWhile_sublist _).length_le
  simp [_h] at h1
  omega

/-- The segments of a path. A path that is not empty has at least one. -/
def split (path : String) : Except Fault (List String) :=
  if path.isEmpty then .ok []
  else
    match (Text.splitOn ['.'] (unbracket (Text.strip path.toList))).filter (!·.isEmpty) with
    | [] => .error (.badPath path)
    | segments => .ok (segments.map String.ofList)

/-- Whether a segment is meant as a position in a list. -/
def isPosition (segment : String) : Bool := Text.isDigits segment.toList

/-- The position that a segment stands for. A segment can look like a position and stand for none:
some characters are digits by shape only. -/
def position (segment : String) : Except Fault Nat :=
  match Numeral.integer segment.toList with
  | .ok n => .ok n.toNat
  | .error flaw => .error (.ofNumeral segment flaw)

/-- The value at the place that the segments name. -/
def get? : Value → List String → Except Fault (Option Value)
  | v, [] => .ok (some v)
  | .object members, segment :: rest =>
    match Members.get? members segment with
    | none => .ok none
    | some v => get? v rest
  | .list items, segment :: rest =>
    if isPosition segment then
      match position segment with
      | .error fault => .error fault
      | .ok i =>
        match items[i]? with
        | none => .ok none
        | some v => get? v rest
    else .ok none
  | _, _ :: _ => .ok none

/-- The value at the place that a path names. -/
def lookup? (v : Value) (path : String) : Except Fault (Option Value) :=
  match split path with
  | .error fault => .error fault
  | .ok segments => get? v segments

/-! ## Assigning -/

/-- Writes an item at a position; the list grows by nulls up to it. -/
def putItem (items : List Value) (i : Nat) (v : Value) : List Value :=
  if i < items.length then items.set i v
  else items ++ (List.replicate (i - items.length) .null ++ [v])

/-- How many items a list has room to grow by at once. It stands in for the memory of the machine,
which no text settles; any other bound would do. -/
def room : Nat := twoTo 29

/-- Why a list cannot grow by `count` items at once: the number is beyond a word, or there is no
room for them. -/
def growthFault? (count : Nat) : Option Fault :=
  if twoTo 63 ≤ count then some .beyondWord else if room < count then some .noRoom else none

/-- The part of a container that a segment names, null when it is not there. -/
def child (container : Value) (segment : String) : Except Fault Value :=
  match container with
  | .list items =>
    match position segment with
    | .error fault => .error fault
    | .ok i => .ok (items[i]?.getD .null)
  | .object members => .ok (Members.getD members segment)
  | _ => .ok .null

/-- The container with another part where the segment says. -/
def put (container : Value) (segment : String) (v : Value) : Except Fault Value :=
  match container with
  | .list items =>
    match position segment with
    | .error fault => .error fault
    | .ok i =>
      match growthFault? (i + 1 - items.length) with
      | some fault => .error fault
      | none => .ok (.list (putItem items i v))
  | .object members => .ok (.object (Members.set members segment v))
  | _ => .ok (.object [(segment, v)])

/-- The container that the rest of a path goes on in: `part` itself when it is an object, or a list
and the next segment is a position, else a fresh one. -/
def enter (part : Value) (next : String) : Value :=
  match part with
  | .object _ => part
  | .list _ => if isPosition next then part else .object []
  | _ => if isPosition next then .list [] else .object []

/-- Writes `v` at the place that the segments name, making and replacing containers on the way. The
container is given back also when a segment stands for no position, or for one too far: what was
made before that segment was reached stays. -/
def assign (container : Value) : List String → Value → Value × Option Fault
  | [], _ => (container, none)
  | [segment], v =>
    match put container segment v with
    | .error fault => (container, some fault)
    | .ok written => (written, none)
  | segment :: next :: rest, v =>
    match child container segment with
    | .error fault => (container, some fault)
    | .ok part =>
      let (inner, fault) := assign (enter part next) (next :: rest) v
      match put container segment inner with
      | .error tooFar => (container, some tooFar)
      | .ok written => (written, fault)

/-- Writes a value into an object at the place that a path names. -/
def assignAt (target : Members) (path : String) (v : Value) : Members × Option Fault :=
  match split path with
  | .error fault => (target, some fault)
  | .ok [] => (target, some (.other .value "Cannot assign to an empty path"))
  | .ok segments =>
    match assign (.object target) segments v with
    | (.object written, fault) => (written, fault)
    | (_, fault) => (target, fault)

/-- The first segment of a path, the empty text for the empty path. -/
def head (path : String) : Except Fault String :=
  match split path with
  | .error fault => .error fault
  | .ok segments => .ok (segments.headD "")

end Conduit.Path
