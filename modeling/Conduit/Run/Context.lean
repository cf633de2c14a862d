import Conduit.Decode

/-!
# The context of a run

What a caller provides for one run: the inputs, the connections of the toolkits, the tables behind
the names that steps use, and on whose behalf the run is made.

* `Context` — the context, with its decoder;
* `Invocation` — a request to run a stored workflow in a context.
-/

namespace Conduit

/-- What a caller provides for one run. -/
structure Context where
  /-- On whose behalf remote actions are made. -/
  resource : Option String := none
  /-- The connection of each toolkit. -/
  connections : List (String × String) := []
  /-- The table behind each name that steps use. -/
  tables : List (String × String) := []
  /-- The inputs of the run. -/
  inputs : Members := []
deriving DecidableEq, Inhabited

/-- A request to run a stored workflow. -/
structure Invocation where
  /-- The id of the workflow. -/
  workflow : String
  /-- The context of the run. -/
  context : Context
deriving DecidableEq, Inhabited

open Decode

/-- A table of texts as an object. -/
def textTable (table : List (String × String)) : Value :=
  .object (table.map fun entry => (entry.1, .str entry.2))

/-- Decodes a context. -/
def Context.decode (m : Members) : Decoded Context :=
  Context.mk <$> optional m "resource_id" none (nullable text)
    <*> optional m "connection_bindings" [] (table text)
    <*> optional m "table_bindings" [] (table text)
    <*> optional m "inputs" [] object

/-- Decodes a context. -/
def Context.ofValue : Decoder Context := record .notRecord Context.decode

/-- The issue of an attempt to change a field: a context does not change. -/
def Context.changeIssue (field : String) : Issue := ⟨.frozen, [.field field]⟩

/-- The context of an object with the given fields. -/
def Context.ofFields (inputs : Members) (connections tables : List (String × String))
    (resource : Option String) : Context :=
  ⟨resource, connections, tables, inputs⟩

/-- Decodes the part of a request that makes up its context. -/
def Invocation.decodeContext (m : Members) : Decoded Context :=
  Context.ofFields <$> optional m "inputs" [] object
    <*> optional m "connection_bindings" [] (table text)
    <*> optional m "table_bindings" [] (table text)
    <*> optional m "resource_id" none (nullable text)

/-- Decodes a request. -/
def Invocation.decode (m : Members) : Decoded Invocation :=
  Invocation.mk <$> field m "workflow_id" text <*> Invocation.decodeContext m

/-- Decodes a request. -/
def Invocation.ofValue : Decoder Invocation := record .notRecord Invocation.decode

/-- The members of a context. -/
def Context.members (c : Context) : Members :=
  [("resource_id", .ofText? c.resource), ("connection_bindings", textTable c.connections),
   ("table_bindings", textTable c.tables), ("inputs", .object c.inputs)]

/-- The members of a context. -/
def Context.encode (c : Context) : Value := .object c.members

/-- The members of a request. -/
def Invocation.encode (i : Invocation) : Value :=
  .object (("workflow_id", .str i.workflow) :: i.context.members)

end Conduit
