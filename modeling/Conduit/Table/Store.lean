import Conduit.Failure
import Conduit.Table.Filter
import Conduit.Table.Sort

/-!
# Tables

A store holds tables of rows in order of arrival. A row that comes without an id is given one by the
count of such rows.

* `TableStore` — the tables, with `TableStore.create`;
* `TableStore.query`, `TableStore.insert`, `TableStore.upsert` — what steps do with them.
-/

namespace Conduit

/-- A table. -/
structure Table where
  /-- The rows, in order of arrival. -/
  rows : List Members := []
  /-- How many rows were given an id. -/
  counter : Nat := 0
deriving DecidableEq, Inhabited

/-- Tables by id. -/
structure TableStore where
  /-- The tables. -/
  tables : List (String × Table) := []
deriving DecidableEq, Inhabited

namespace Table

/-- The id that a table gives to its next row without one. -/
def nextId (t : Table) : String := "row_" ++ toString (t.counter + 1)

/-- Adds a row at the end and gives it an id if it has none. -/
def append (t : Table) (row : Members) : Table × Members :=
  if Members.has row "id" then ({ t with rows := t.rows ++ [row] }, row)
  else
    let row := Members.set row "id" (.str t.nextId)
    ({ rows := t.rows ++ [row], counter := t.counter + 1 }, row)

/-- A table of some rows. -/
def ofRows (rows : List Members) : Table := rows.foldl (fun t row => (t.append row).1) {}

/-- Whether two rows have the same value in a column; a missing value counts as null. -/
def sameKey (key : String) (row other : Members) : Bool :=
  (Members.getD other key).equals (Members.getD row key)

/-- Writes `row` into the first row of the same key. -/
def updateFirst (key : String) (row : Members) : List Members → Option (List Members × Members)
  | [] => none
  | other :: rest =>
    if sameKey key row other then
      let written := Members.update other row
      some (written :: rest, written)
    else (updateFirst key row rest).map fun found => (other :: found.1, found.2)

/-- The rows that meet all filters. -/
def select (t : Table) (filters : List Filter) : List Members :=
  t.rows.filter fun row => filters.all fun f => f.admits row

/-- Whether a row has a value in a column that can be sorted by. -/
def isPresent (column : String) (row : Members) : Bool := !(Members.getD row column).isNull

/-- Rows in the order of a sort key; those without a value come last. -/
def arrange (key : SortKey) (rows : List Members) : Except Value.Unordered (List Members) := do
  let present := rows.filter (isPresent key.column)
  let absent := rows.filter fun row => !isPresent key.column row
  let less (a b : Members) := Value.less (Members.getD a key.column) (Members.getD b key.column)
  let sorted ← if key.descending then sortByDescending less present else sortBy less present
  return sorted ++ absent

/-- The first `limit` rows; a negative limit drops as many at the end. -/
def firstRows (limit : Option Int) (rows : List Members) : List Members :=
  match limit with
  | none => rows
  | some n => if 0 ≤ n then rows.take n.toNat else rows.take (rows.length - (-n).toNat)

end Table

namespace TableStore

/-- The table of an id. -/
def get? (s : TableStore) (id : String) : Option Table := s.tables.lookup id

/-- Writes a table, in place when it is there. -/
def put (s : TableStore) (id : String) (t : Table) : TableStore :=
  if s.tables.any fun entry => entry.1 == id then
    { tables := s.tables.map fun entry => if entry.1 = id then (id, t) else entry }
  else { tables := s.tables ++ [(id, t)] }

/-- Makes a table of some rows; one of the same id is replaced. -/
def create (s : TableStore) (id : String) (rows : List Members) : TableStore :=
  s.put id (Table.ofRows rows)

/-- The store of some tables. -/
def ofTables (tables : List (String × List Members)) : TableStore :=
  tables.foldl (fun s entry => s.create entry.1 entry.2) {}

/-- The failure of a table that is not there. -/
def notFound (id : String) : Failure where
  kind := .table
  message := "Table '" ++ id ++ "' not found"
  details := [("table_id", .str id)]

/-- The table of an id, or the failure that there is none. -/
def find (s : TableStore) (id : String) : Except Trouble Table :=
  match s.get? id with
  | some t => .ok t
  | none => .error (.failure (notFound id))

/-- The rows of a table that meet all filters, sorted and cut off. -/
def query (s : TableStore) (id : String) (filters : List Table.Filter) (sort : Option Table.SortKey)
    (limit : Option Int) : Except Trouble (List Members) := do
  let t ← s.find id
  let rows := t.select filters
  let rows ←
    match sort with
    | none => .ok rows
    | some key =>
      match Table.arrange key rows with
      | .ok sorted => .ok sorted
      | .error pair => .error (.fault (.unordered pair))
  return Table.firstRows limit rows

/-- Adds a row to a table. -/
def insert (s : TableStore) (id : String) (row : Members) :
    Except Trouble (TableStore × Members) := do
  let t ← s.find id
  let (t, row) := t.append row
  return (s.put id t, row)

/-- Writes a row into the first row of the same key, or adds it; whether it was added. -/
def upsert (s : TableStore) (id : String) (row : Members) (key : String) :
    Except Trouble (TableStore × Members × Bool) := do
  let t ← s.find id
  match Table.updateFirst key row t.rows with
  | some (rows, written) => return (s.put id { t with rows := rows }, written, false)
  | none =>
    let (t, row) := t.append row
    return (s.put id t, row, true)

/-- All tables with their rows. -/
def encode (s : TableStore) : Value :=
  .object (s.tables.map fun entry => (entry.1, .list (entry.2.rows.map .object)))

end TableStore

end Conduit
