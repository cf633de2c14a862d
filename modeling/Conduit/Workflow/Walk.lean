import Conduit.Workflow.Graph

/-!
# Searching for a cycle move by move

A search in depth that keeps its place itself: the path to the step where it is, the steps next to
every step of the path that are still to be looked at, and a colour for every step. It makes one
move at a time. A table that has no entry where one is asked for breaks the search.

* `Walk` — where the search is between two moves;
* `Walk.move` — the next move;
* `Walk.follow` — a number of moves, or fewer when the search ends before.
-/

namespace Conduit

/-- How far a search is with a step. -/
inductive Colour where
  /-- The step has not been met. -/
  | white
  /-- The step is on the path. -/
  | grey
  /-- The search is done with the step. -/
  | black
deriving DecidableEq, Inhabited

/-- Where a search is between two moves. -/
structure Walk where
  /-- The steps that the search has still to begin at. -/
  roots : List String
  /-- The steps from where the search began to where it is. -/
  path : List String
  /-- The steps next to those of the path that are still to be looked at, for the last step of the
  path first. -/
  pending : List (List String)
  /-- How far the search is with every step. -/
  colours : List (String × Colour)
deriving DecidableEq, Inhabited

/-- What a move leads to. -/
inductive Move where
  /-- The search goes on. -/
  | on (w : Walk)
  /-- The search ends, with the cycle that it has met, if any. -/
  | done (cycle : Option (List String))
  /-- The search asks for something that is not there. -/
  | broken
deriving DecidableEq, Inhabited

namespace Walk

/-- The search before its first move. -/
def begin (ids : List String) : Walk where
  roots := ids
  path := []
  pending := []
  colours := ids.map fun id => (id, .white)

/-- Gives a step another colour. -/
def paint (colour : Colour) (id : String) (colours : List (String × Colour)) :
    List (String × Colour) :=
  amend (fun _ => colour) id colours

/-- Begins at the next step that has not been met. -/
def begun (next : List (String × List String)) (w : Walk) : Move :=
  match w.roots with
  | [] => .done none
  | root :: roots =>
    match w.colours.lookup root with
    | none => .broken
    | some .white =>
      match next.lookup root with
      | none => .broken
      | some children => .on ⟨roots, [root], [children], paint .grey root w.colours⟩
    | some _ => .on { w with roots := roots }

/-- Goes back from the last step of the path, next to which nothing is left; `pending` belongs to
the steps before it. -/
def back (w : Walk) (pending : List (List String)) : Move :=
  match w.path.getLast? with
  | none => .broken
  | some node =>
    .on { w with path := w.path.dropLast, pending := pending, colours := paint .black node w.colours }

/-- Looks at a step next to the last one of the path; `pending` is what is left after it. -/
def look (next : List (String × List String)) (w : Walk) (child : String)
    (pending : List (List String)) : Move :=
  match w.colours.lookup child with
  | none => .broken
  | some .grey =>
    if child ∈ w.path then .done (some (w.path.drop (w.path.idxOf child) ++ [child])) else .broken
  | some .white =>
    match next.lookup child with
    | none => .broken
    | some children =>
      .on { w with
        path := w.path ++ [child], pending := children :: pending,
        colours := paint .grey child w.colours }
  | some .black => .on { w with pending := pending }

/-- The next move of a search; `next` is the table of the steps next to each step. -/
def move (next : List (String × List String)) (w : Walk) : Move :=
  match w.pending with
  | [] => w.begun next
  | [] :: pending => w.back pending
  | (child :: children) :: pending => w.look next child (children :: pending)

/-- As many moves as are asked for, or fewer when the search ends before. -/
def follow (next : List (String × List String)) : Nat → Walk → Move
  | 0, w => .on w
  | n + 1, w =>
    match w.move next with
    | .on w' => w'.follow next n
    | ended => ended

end Walk

end Conduit
