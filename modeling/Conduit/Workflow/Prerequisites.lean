import Conduit.Run.Context
import Conduit.Workflow.Definition

/-!
# What a run would be missing

Lists the toolkits without a connection and the tables without a binding before anything runs.
-/

namespace Conduit

/-- What a context lacks for a workflow. -/
structure Prerequisites where
  /-- The toolkits without a connection, ascending. -/
  missingConnections : List String
  /-- The table names without a table, ascending. -/
  missingTables : List String
deriving DecidableEq, Inhabited

namespace Prerequisites

/-- Whether nothing is missing. -/
def isMet (p : Prerequisites) : Bool := p.missingConnections.isEmpty && p.missingTables.isEmpty

/-- The report. -/
def encode (p : Prerequisites) : Value :=
  .object
    [("valid", .bool p.isMet), ("missing_connections", .ofTexts p.missingConnections),
     ("missing_tables", .ofTexts p.missingTables)]

end Prerequisites

namespace Definition

/-- The toolkits of the remote actions. -/
def neededToolkits (d : Definition) : List String :=
  sortedDistinct
    (((d.steps.filter fun s => s.kind == .remoteTool).filterMap (·.toolkit)).filter (!·.isEmpty))

/-- The names that the steps use for tables. -/
def neededTables (d : Definition) : List String :=
  sortedDistinct
    (((d.steps.filter fun s => s.kind.usesTable).filterMap (·.table)).filter (!·.isEmpty))

/-- What a context lacks for a workflow. -/
def prerequisites (d : Definition) (context : Context) : Prerequisites where
  missingConnections := d.neededToolkits.filter fun t => (context.connections.lookup t).isNone
  missingTables := d.neededTables.filter fun t => (context.tables.lookup t).isNone

end Definition

end Conduit
