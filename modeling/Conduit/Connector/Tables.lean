import Conduit.Connector.Basic

/-!
# Steps on tables

A step names its table by a name of its own, and the context says which table that is.

* `TableQuery.connector` — reads rows; single values of the input act as filters;
* `TableWrite.connector` — writes the input as a row.
-/

namespace Conduit

open Table

/-- The table that a step works on. -/
def boundTable (step : Step) (context : Context) : Except Trouble String :=
  let found := (step.table.filter (!·.isEmpty)).bind fun t => context.tables.lookup t
  match found.filter (!·.isEmpty) with
  | some id => .ok id
  | none =>
    .error (.failure
      { kind := .table, message := "No table binding for: " ++ step.table.getD "None",
        details := [("table_ref", .ofText? step.table)] })

namespace TableQuery

/-- Whether a value is single: no list and no object. -/
def isSingle : Value → Bool
  | .list _ => false
  | .object _ => false
  | _ => true

/-- The filters that an input stands for. -/
def inputFilters : Value → List Filter
  | .object members =>
    (members.filter fun m => isSingle m.2).map fun m => { column := m.1, value := m.2 }
  | _ => []

/-- Reads the rows that a step asks for. -/
def answer (step : Step) (input : Value) (context : Context) (tables : TableStore) :
    Except Trouble Value := do
  let id ← boundTable step context
  match (QueryConfig.decode step.config).toExcept with
  | .error issues =>
    throw (.failure (invalidConfig .table "query" "QueryTableConfig" step issues))
  | .ok config =>
    let rows ← tables.query id (config.filter.toList ++ inputFilters input) config.sort config.limit
    return .object [("rows", .list (rows.map .object)), ("count", .ofNat rows.length)]

/-- The connector of steps that read tables. -/
def connector : Connector where
  name := "TableQueryConnector"
  kind := .tableQuery
  call := fun step input context environment =>
    (environment, Call.answered ((answer step input context environment.tables).map .value))

end TableQuery

namespace TableWrite

/-- Writes a row by the settings of a step. -/
def write (step : Step) (config : WriteConfig) (id : String) (row : Members) (tables : TableStore) :
    Except Trouble (TableStore × Members × Bool) :=
  match config.mode with
  | .insert => (tables.insert id row).map fun written => (written.1, written.2, true)
  | .upsert =>
    match (config.upsertKey.filter (!·.isEmpty)).filter fun key => Members.has row key with
    | some key => tables.upsert id row key
    | none =>
      .error (.failure
        { kind := .table,
          message :=
            "Upsert on step '" ++ step.id ++ "' needs key '" ++ config.upsertKey.getD "None"
              ++ "' in its input",
          details := [("step_id", .str step.id), ("upsert_key", .ofText? config.upsertKey)] })

/-- Writes the input of a step as a row. -/
def answer (step : Step) (input : Value) (context : Context) (tables : TableStore) :
    Except Trouble (TableStore × Value) := do
  let id ← boundTable step context
  match (WriteConfig.decode step.config).toExcept with
  | .error issues =>
    throw (.failure (invalidConfig .table "write" "WriteTableConfig" step issues))
  | .ok config =>
    match input with
    | .object row =>
      let (tables, written, inserted) ← write step config id row tables
      return (tables, .object
        [("inserted", .bool inserted), ("id", Members.getD written "id"), ("row", .object written)])
    | _ =>
      throw (.failure
        { kind := .table, message := "Step '" ++ step.id ++ "' can only write an object row",
          details := [("step_id", .str step.id)] })

/-- The connector of steps that write to tables. -/
def connector : Connector where
  name := "TableWriteConnector"
  kind := .tableWrite
  call := fun step input context environment =>
    match answer step input context environment.tables with
    | .error trouble => (environment, Call.answered (.error trouble))
    | .ok (tables, v) => ({ environment with tables := tables }, Call.answered (.ok (.value v)))

end TableWrite

end Conduit
