import Conduit.Workflow.Graph

/-!
# The linear order of a workflow

The steps of a workflow are listed one after the other. A step is ready when all steps that it takes
values from are listed; of the steps that are ready, the one that was declared first is listed next.
How many sources of a step are not listed is counted down as they are, so that no step is looked at
before its turn.

* `Lineup` — how far the listing is;
* `Lineup.release`, `Lineup.list` — counts a source off, and lists what is ready;
* `Graph.order` — the linear order of a graph.
-/

namespace Conduit

/-- Puts a step with its position into a queue that is ascending by position. -/
def enqueue (entry : Nat × String) : List (Nat × String) → List (Nat × String)
  | [] => [entry]
  | other :: rest =>
    if other.1 < entry.1 then other :: enqueue entry rest else entry :: other :: rest

/-- How far a listing of steps is. -/
structure Lineup where
  /-- For each step, the number of its sources that are not counted off. -/
  missing : List (String × Int)
  /-- The steps that are ready, with their positions, the first of them first. -/
  ready : List (Nat × String)
  /-- The steps that are listed, the last of them first. -/
  listed : List String
deriving DecidableEq, Inhabited

namespace Lineup

/-- Nothing is listed; the steps without sources are ready. -/
def start (links : Links) (ids : List String) : Lineup :=
  let missing := ids.map fun id => (id, ((entryOf links.upstream id).length : Int))
  let free := missing.filter fun row => row.2 = 0
  { missing := missing
    ready := (free.map fun row => (ids.idxOf row.1, row.1)).foldr enqueue []
    listed := [] }

/-- Counts one source of a step off; with the last of them the step is ready. -/
def release (ids : List String) (l : Lineup) (id : String) : Lineup :=
  let missing := amend (· - 1) id l.missing
  if missing.lookup id = some 0 then
    { l with missing := missing, ready := enqueue (ids.idxOf id, id) l.ready }
  else { l with missing := missing }

/-- Lists the first step that is ready, and then counts it off where values of it are taken. -/
def list (links : Links) (ids : List String) (l : Lineup) (id : String)
    (rest : List (Nat × String)) : Lineup :=
  (entryOf links.downstream id).foldl (release ids)
    { l with ready := rest, listed := id :: l.listed }

/-- Lists steps as long as some are ready. Every turn lists one, so as many turns as there are steps
are enough. -/
def listAll (links : Links) (ids : List String) : Nat → Lineup → Lineup
  | 0, l => l
  | fuel + 1, l =>
    match l.ready with
    | [] => l
    | (_, id) :: rest => listAll links ids fuel (l.list links ids id rest)

end Lineup

/-- The steps of a graph in an order in which each comes after its predecessors; whenever several
could come next, the one that was declared first does. -/
def Graph.order (g : Graph) : List String :=
  let links := g.definition.links
  let ids := g.definition.stepIds
  ((Lineup.start links ids).listAll links ids ids.length).listed.reverse

end Conduit
