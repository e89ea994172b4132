import Std.Data.ExtTreeMap
import Switchboard.Columns.Basic

/-! # Tables with tombstones

A row that loses its last column stays behind as a tombstone until the grace
period of its table is over; scans still return it, without columns.  A table
without a grace period drops such a row at once.
-/

namespace Switchboard.Columns

structure StoredRow where
  columns : Std.ExtTreeMap String String := ∅
  /-- When the row lost its last column, if it has none. -/
  deletedAt : Option Nat := none
deriving DecidableEq

namespace StoredRow

def named (row : StoredRow) (name : String) : Option Column :=
  row.columns[name]?.map (Column.mk name)

def select (row : StoredRow) : Projection → List Column
  | .all limit => upTo limit (row.columns.toList.map fun (name, value) => ⟨name, value⟩)
  | .names names => names.filterMap row.named

end StoredRow

structure Table where
  /-- How long an emptied row is kept, in nanoseconds. -/
  grace : Nat
  rows : Std.ExtTreeMap String StoredRow := ∅
  /-- When which row was emptied, oldest first; entries of rows written again stay in it. -/
  tombstones : List (Nat × String) := []
deriving DecidableEq

namespace Table

def ofDef (definition : TableDef) : Table :=
  { grace := definition.grace.nanos }

/-- Sets a column, which makes the row live. -/
def insert (table : Table) (row column value : String) : Table :=
  let stored := (table.rows[row]?).getD {}
  { table with
    rows := table.rows.insert row
      { columns := stored.columns.insert column value, deletedAt := none } }

/-- Makes an emptied row a tombstone, or drops it when there is no grace period. -/
def bury (table : Table) (key : String) (row : StoredRow) (now : Nat) : Table :=
  if table.grace = 0 then { table with rows := table.rows.erase key }
  else match row.deletedAt with
    | some _ => { table with rows := table.rows.insert key row }
    | none =>
      { table with
        rows := table.rows.insert key { row with deletedAt := some now }
        tombstones := table.tombstones ++ [(now, key)] }

/-- Removes a column; a row without columns left is buried. -/
def deleteColumn (table : Table) (key column : String) (now : Nat) : Table :=
  match table.rows[key]? with
  | none => table
  | some row =>
    let row := { row with columns := row.columns.erase column }
    if row.columns.isEmpty then table.bury key row now
    else { table with rows := table.rows.insert key row }

def deleteRow (table : Table) (key : String) (now : Nat) : Table :=
  match table.rows[key]? with
  | none => table
  | some row => table.bury key { row with columns := ∅ } now

def apply (table : Table) (now : Nat) : Mutation → Table
  | .insert _ row column value => table.insert row column value
  | .deleteColumn _ row column => table.deleteColumn row column now
  | .deleteRow _ row => table.deleteRow row now

/-- Drops the rows of the oldest tombstones as far as their grace is over.  A tombstone that a
later write has made out of date drops nothing. -/
def purgeRows (grace now : Nat) :
    List (Nat × String) → Std.ExtTreeMap String StoredRow →
      List (Nat × String) × Std.ExtTreeMap String StoredRow
  | [], rows => ([], rows)
  | (time, key) :: rest, rows =>
    if grace ≤ now - time then
      let buried := rows[key]?.any (·.deletedAt == some time)
      purgeRows grace now rest (if buried then rows.erase key else rows)
    else ((time, key) :: rest, rows)

def purge (table : Table) (now : Nat) : Table :=
  let (tombstones, rows) := purgeRows table.grace now table.tombstones table.rows
  { table with tombstones, rows }

def columns (table : Table) (key : String) : List Column :=
  match table.rows[key]? with
  | none => []
  | some row => row.select (.all none)

def scan (table : Table) (range : Range) (projection : Projection) : List Row :=
  let rows := table.rows.toList.filter fun (key, _) => range.start ≤ key
  (upTo range.limit rows).map fun (key, row) => ⟨key, row.select projection⟩

end Table

end Switchboard.Columns
