import Conduit.Catalog
import Conduit.Connector.ControlFlow
import Conduit.Connector.CustomCode
import Conduit.Connector.RemoteTool
import Conduit.Connector.Tables

/-!
# The registry of connectors

Says which connector carries out a step: the one registered for its toolkit, or else the one for its
kind.

* `Registry.register`, `Registry.resolve`, `Registry.list`;
* `Registry.standard` — one connector for every kind of step.
-/

namespace Conduit

/-- The connectors by kind of step and by toolkit. -/
structure Registry where
  /-- The known remote actions. -/
  catalog : Catalog := {}
  /-- The connectors by kind of step. -/
  byKind : List (StepKind × Connector) := []
  /-- The connectors that toolkits have of their own. -/
  byToolkit : List (String × Connector) := []
deriving Inhabited

namespace Registry

/-- Writes an entry, in place when it is there. -/
def putConnector {κ : Type} [BEq κ] (key : κ) (c : Connector) :
    List (κ × Connector) → List (κ × Connector)
  | [] => [(key, c)]
  | (k, other) :: rest =>
    if k == key then (k, c) :: rest else (k, other) :: putConnector key c rest

/-- Registers a connector for its kind of step, or for one toolkit. -/
def register (r : Registry) (c : Connector) (toolkit : Option String) : Registry :=
  match toolkit.filter (!·.isEmpty) with
  | some t => { r with byToolkit := putConnector t c r.byToolkit }
  | none => { r with byKind := putConnector c.kind c r.byKind }

/-- The connector of a kind of step with a toolkit. -/
def resolve (r : Registry) (kind : StepKind) (toolkit : Option String) : Except Failure Connector :=
  match (toolkit.filter (!·.isEmpty)).bind fun t => r.byToolkit.lookup t with
  | some c => .ok c
  | none =>
    match r.byKind.lookup kind with
    | some c => .ok c
    | none =>
      .error
        { kind := .unknownConnector,
          message := "No connector registered for step type '" ++ kind.name ++ "'" }

/-- The connector of a step. -/
def connectorOf (r : Registry) (s : Step) : Except Failure Connector := r.resolve s.kind s.toolkit

/-- The names of the connectors by what they are registered for. -/
def list (r : Registry) : Members :=
  Members.update (r.byKind.map fun entry => (entry.1.name, .str entry.2.name))
    (r.byToolkit.map fun entry => ("toolkit:" ++ entry.1, .str entry.2.name))

/-- A registry of some connectors. -/
def ofConnectors (catalog : Catalog) (connectors : List Connector) : Registry :=
  connectors.foldl (fun r c => r.register c none) { catalog := catalog }

/-- A registry with a connector for every kind of step. -/
def standard (client : ActionClient) (functions : List (String × CustomFunction))
    (loader : CodeLoader) (evaluate : Evaluator) (catalog : Catalog) : Registry :=
  ofConnectors catalog
    [RemoteTool.connector client, CustomCode.connector functions loader, TableQuery.connector,
     TableWrite.connector, ControlFlow.connector evaluate]

end Registry

end Conduit
