import Conduit.Failure
import Conduit.Path
import Conduit.Workflow.Definition

/-!
# Well-formed workflows

A workflow is well formed when its step ids are distinct and not reserved, its mappings lead from
and to what is there by paths that can be used, no two mappings overwrite each other, and no step
waits for itself. The checks are made in this order and the first that fails is reported.

* `GraphFault` — why a workflow is not well formed;
* `Links`, `Definition.links` — which steps take values from which, in tables;
* `findCycle?` — the first cycle that a depth-first search meets;
* `Graph`, `Graph.ofDefinition` — a workflow that passed all checks.
-/

namespace Conduit

/-- The end of a mapping. -/
inductive MappingEnd where
  /-- Where the value comes from. -/
  | source
  /-- Where the value goes. -/
  | target
deriving DecidableEq, Inhabited

/-- Why a workflow is not well formed. -/
inductive GraphFault where
  /-- Two steps have this id. -/
  | duplicateStep (id : String)
  /-- A step has this id, which no step may have. -/
  | reservedStep (id : String)
  /-- A mapping names a step that is not there. -/
  | unknownStep (stepEnd : MappingEnd) (id : String)
  /-- A mapping has a path without any segment. -/
  | badPath (path target : String)
  /-- A mapping into a step does not say where. -/
  | noTargetPath (target : String)
  /-- A mapping of a fixed value has a path in its source. -/
  | fixedWithPath (target path : String)
  /-- Two mappings into one target overwrite each other. -/
  | ambiguous (target path : String) (other : List String)
  /-- Steps wait for each other in a circle; the first is repeated at the end. -/
  | cycle (ids : List String)
deriving DecidableEq, Inhabited

/-- The report of a graph fault. -/
def GraphFault.failure : GraphFault → Failure
  | duplicateStep id =>
    { kind := .duplicateNode, message := "Duplicate node id: " ++ id,
      details := [("node_id", .str id)] }
  | reservedStep id =>
    { kind := .duplicateNode, message := "Node id '" ++ id ++ "' is reserved",
      details := [("node_id", .str id)] }
  | unknownStep .source id =>
    { kind := .unknownReference, message := "Edge source '" ++ id ++ "' does not exist",
      details := [("step_id", .str id), ("role", .str "source")] }
  | unknownStep .target id =>
    { kind := .unknownReference, message := "Edge target '" ++ id ++ "' does not exist",
      details := [("step_id", .str id), ("role", .str "target")] }
  | badPath path target =>
    { kind := .invalidFieldPath, message := (Fault.badPath path).message,
      details := [("path", .str path), ("target_step_id", .str target)] }
  | noTargetPath target =>
    { kind := .invalidFieldPath, message := "Mapping into '" ++ target ++ "' has no target field",
      details := [("target_step_id", .str target)] }
  | fixedWithPath target path =>
    { kind := .invalidFieldPath, message := "Static mappings take a value, not a source path",
      details := [("target_step_id", .str target), ("target_field_path", .str path)] }
  | ambiguous target path other =>
    { kind := .ambiguousMapping,
      message := "More than one mapping targets " ++ target ++ "." ++ path,
      details := [("target_step_id", .str target), ("target_field_path", .str path),
        ("conflicts_with", .str (".".intercalate other))] }
  | cycle ids =>
    { kind := .cyclicGraph, message := Failure.cycleMessage ids,
      details := [("cycle", .ofTexts ids)] }

/-! ## Ids -/

/-- Checks the ids of steps; `seen` holds the ids before them. -/
def checkIds (seen : List String) : List String → Except GraphFault Unit
  | [] => .ok ()
  | id :: rest =>
    if id ∈ seen then .error (.duplicateStep id)
    else if id ∈ reservedIds then .error (.reservedStep id)
    else checkIds (id :: seen) rest

/-! ## References -/

/-- Whether an origin is there. -/
def Origin.isKnown (known : List String) : Origin → Bool
  | input => true
  | fixed => true
  | step id => decide (id ∈ known)

/-- Whether a destination is there. -/
def Destination.isKnown (known : List String) : Destination → Bool
  | output => true
  | step id => decide (id ∈ known)

/-- Checks a path of a mapping into `target`. -/
def checkPath (target : Destination) (path : String) (mayBeEmpty : Bool) : Except GraphFault Unit :=
  match Path.split path with
  | .error _ => .error (.badPath path target.id)
  | .ok segments =>
    if segments.isEmpty && !mayBeEmpty then .error (.noTargetPath target.id) else .ok ()

/-- Checks the ends and the paths of a mapping. -/
def checkMapping (known : List String) (m : Mapping) : Except GraphFault Unit := do
  if !m.source.isKnown known then throw (.unknownStep .source m.source.id)
  if !m.target.isKnown known then throw (.unknownStep .target m.target.id)
  checkPath m.target m.targetPath (m.target == .output)
  checkPath m.target m.sourcePath true
  if m.source = .fixed ∧ m.sourcePath ≠ "" then throw (.fixedWithPath m.target.id m.targetPath)

/-- Checks mappings one by one. -/
def checkMappings (known : List String) : List Mapping → Except GraphFault Unit
  | [] => .ok ()
  | m :: rest => do
    checkMapping known m
    checkMappings known rest

/-! ## Ambiguity -/

/-- Whether one of two paths begins with the other. -/
def overlaps : List String → List String → Bool
  | [], _ => true
  | _, [] => true
  | a :: as, b :: bs => a == b && overlaps as bs

/-- The segments of the target path of a mapping; a path that cannot be split has none. -/
def Mapping.targetSegments (m : Mapping) : List String :=
  match Path.split m.targetPath with
  | .ok segments => segments
  | .error _ => []

/-- Checks that no mapping overwrites an earlier one; `before` holds those, in order. -/
def checkDistinct (before : List Mapping) : List Mapping → Except GraphFault Unit
  | [] => .ok ()
  | m :: rest =>
    match before.find? fun other =>
        other.target == m.target && overlaps m.targetSegments other.targetSegments with
    | some other => .error (.ambiguous m.target.id m.targetPath other.targetSegments)
    | none => checkDistinct (before ++ [m]) rest

/-! ## Links -/

/-- The entry of a step in a table, nothing if it has none. -/
def entryOf (table : List (String × List String)) (id : String) : List String :=
  (table.lookup id).getD []

/-- Changes the entry of a step in a table. -/
def amend {α : Type} (change : α → α) (id : String) (table : List (String × α)) :
    List (String × α) :=
  table.map fun row => if row.1 = id then (row.1, change row.2) else row

/-- Which steps take values from which: two tables with an entry for each step. -/
structure Links where
  /-- The steps that a step takes values from. -/
  upstream : List (String × List String)
  /-- The steps that take values from a step. -/
  downstream : List (String × List String)
deriving DecidableEq, Inhabited

namespace Links

/-- The tables in which no step takes values from another. -/
def ofIds (ids : List String) : Links where
  upstream := ids.map fun id => (id, [])
  downstream := ids.map fun id => (id, [])

/-- Enters that one step takes values from another, unless that is there. -/
def add (links : Links) (source target : String) : Links :=
  if source ∈ entryOf links.upstream target then links
  else
    { upstream := amend (· ++ [source]) target links.upstream
      downstream := amend (· ++ [target]) source links.downstream }

/-- Enters a mapping; one from or to something else than a step makes no step wait. -/
def enter (known : List String) (links : Links) (m : Mapping) : Links :=
  match m.source, m.target with
  | .step source, .step target =>
    if source ∈ known ∧ target ∈ known then links.add source target else links
  | _, _ => links

end Links

namespace Definition

/-- Which steps of a workflow take values from which, entered mapping by mapping. -/
def links (d : Definition) : Links :=
  d.mappings.foldl (Links.enter d.stepIds) (Links.ofIds d.stepIds)

/-- The steps that a step takes values from, in order of the mappings. -/
def predecessors (d : Definition) (id : String) : List String := entryOf d.links.upstream id

/-- The steps that take values from a step, in order of the mappings. -/
def successors (d : Definition) (id : String) : List String := entryOf d.links.downstream id

end Definition

/-! ## Cycles -/

/-- Searches the steps that can be reached from the first of `path` in depth; `path` leads back to
where the search began and `finished` holds the steps that are done with. The answer is a cycle, or
the steps that are done with now. A path has no step twice, so `fuel` steps are enough when there
are that many. -/
def searchFrom (next : String → List String) :
    Nat → List String → List String → Except (List String) (List String)
  | 0, _, finished => .ok finished
  | _ + 1, [], finished => .ok finished
  | fuel + 1, node :: ancestors, finished => do
    let finished ← (next node).foldlM
      (fun finished child =>
        if child ∈ node :: ancestors then
          .error (((node :: ancestors).takeWhile (· ≠ child) ++ [child]).reverse ++ [child])
        else if child ∈ finished then .ok finished
        else searchFrom next fuel (child :: node :: ancestors) finished)
      finished
    return node :: finished

/-- Searches from every step that is not done with. -/
def searchAll (next : String → List String) (fuel : Nat) :
    List String → List String → Except (List String) (List String)
  | [], finished => .ok finished
  | root :: rest, finished => do
    let finished ← if root ∈ finished then .ok finished else searchFrom next fuel [root] finished
    searchAll next fuel rest finished

/-- The first cycle that is met, its first step repeated at the end. -/
def findCycle? (ids : List String) (next : String → List String) : Option (List String) :=
  match searchAll next (ids.length + 1) ids [] with
  | .error cycle => some cycle
  | .ok _ => none

/-! ## Graphs -/

/-- Checks everything that makes a workflow well formed. -/
def Definition.check (d : Definition) : Except GraphFault Unit := do
  checkIds [] d.stepIds
  checkMappings d.stepIds d.mappings
  checkDistinct [] d.mappings
  let links := d.links
  match findCycle? d.stepIds (entryOf links.downstream) with
  | some cycle => throw (.cycle cycle)
  | none => return ()

/-- A workflow that is well formed. -/
structure Graph where
  /-- The workflow. -/
  definition : Definition
  /-- It passed all checks. -/
  checked : definition.check = .ok ()

/-- The graph of a workflow, or the first reason why it has none. -/
def Graph.ofDefinition (d : Definition) : Except GraphFault Graph :=
  match h : d.check with
  | .ok () => .ok ⟨d, h⟩
  | .error fault => .error fault

/-- The position of a step among the declared steps. -/
def Graph.position? (g : Graph) (id : String) : Option Nat := g.definition.stepIds.idxOf? id

end Conduit
