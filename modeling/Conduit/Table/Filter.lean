import Conduit.Decode
import Conduit.Value.Compare

/-!
# Filters and queries

What a step asks of a table: which rows, in which order, how many.

* `Filter`, `Filter.admits` — a condition on one column;
* `SortKey` — a column to sort by;
* `QueryConfig`, `WriteConfig` — the settings of the steps that work on tables.
-/

namespace Conduit.Table

/-- How the value of a column is compared. -/
inductive Operator where
  /-- Equal. -/
  | eq
  /-- Not equal. -/
  | neq
  /-- Greater. -/
  | gt
  /-- Less. -/
  | lt
  /-- The column holds the value as a part. -/
  | contains
deriving DecidableEq, Inhabited

/-- The operators with their names. -/
def Operator.table : List (String × Operator) :=
  [("eq", eq), ("neq", neq), ("gt", gt), ("lt", lt), ("contains", contains)]

/-- A condition on one column. -/
structure Filter where
  /-- The column. -/
  column : String
  /-- How its value is compared. -/
  operator : Operator := .eq
  /-- What it is compared with. -/
  value : Value := .null
deriving DecidableEq, Inhabited

/-- Whether a row meets a filter. A row without the column never does, nor does one whose value
cannot be compared. -/
def Filter.admits (f : Filter) (row : Members) : Bool :=
  match row.get? f.column with
  | none => false
  | some actual =>
    match f.operator with
    | .eq => actual.equals f.value
    | .neq => !actual.equals f.value
    | .gt => Value.isLess f.value actual
    | .lt => Value.isLess actual f.value
    | .contains => (Value.holds? actual f.value).getD false

/-- A column to sort by. -/
structure SortKey where
  /-- The column. -/
  column : String
  /-- Whether great values come first. -/
  descending : Bool := false
deriving DecidableEq, Inhabited

/-- The settings of a step that reads a table. -/
structure QueryConfig where
  /-- Which rows are wanted. -/
  filter : Option Filter := none
  /-- In which order. -/
  sort : Option SortKey := none
  /-- How many; a negative number says how many at the end are not wanted. -/
  limit : Option Int := none
deriving DecidableEq, Inhabited

/-- How a step writes. -/
inductive WriteMode where
  /-- A new row. -/
  | insert
  /-- The row of the same key, or else a new one. -/
  | upsert
deriving DecidableEq, Inhabited

/-- The settings of a step that writes to a table. -/
structure WriteConfig where
  /-- How the step writes. -/
  mode : WriteMode := .insert
  /-- The column that is the key. -/
  upsertKey : Option String := none
deriving DecidableEq, Inhabited

open Decode

/-- Decodes a filter. -/
def Filter.decode (m : Members) : Decoded Filter :=
  Filter.mk <$> field m "column" text
    <*> optional m "operator" .eq (word .notLiteral Operator.table)
    <*> optional m "value" .null any

/-- Decodes a sort key. -/
def SortKey.decode (m : Members) : Decoded SortKey :=
  SortKey.mk <$> field m "column" text <*> optional m "descending" false flag

/-- Decodes the settings of a step that reads a table. -/
def QueryConfig.decode (m : Members) : Decoded QueryConfig :=
  QueryConfig.mk <$> optional m "filter" none (nullable (record .notRecord Filter.decode))
    <*> optional m "sort" none (nullable (record .notRecord SortKey.decode))
    <*> optional m "limit" none (nullable integer)

/-- Decodes the settings of a step that writes to a table. -/
def WriteConfig.decode (m : Members) : Decoded WriteConfig :=
  WriteConfig.mk
    <$> optional m "mode" .insert (word .notLiteral [("insert", .insert), ("upsert", .upsert)])
    <*> optional m "upsert_key" none (nullable text)

end Conduit.Table
