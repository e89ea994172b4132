import Switchboard.Columns.Time

/-! # Column data and calls

A cluster holds keyspaces, a keyspace holds tables, and a table holds rows of
named text columns under text keys.  This module has the vocabulary of the calls
made to a cluster; `Table` and `Cluster` say what they do.
-/

namespace Switchboard.Columns

inductive Consistency where
  | one
deriving DecidableEq, Repr

structure TableDef where
  name : String
  /-- How long an emptied row is kept, in seconds. -/
  graceSeconds : UInt32 := 864000
deriving DecidableEq, Repr

def TableDef.grace (table : TableDef) : Duration :=
  .ofSeconds table.graceSeconds.toNat

structure KeyspaceDef where
  name : String
  strategy : String := "SimpleStrategy"
  replicationFactor : UInt32 := 1
  tables : List TableDef
deriving DecidableEq, Repr

def KeyspaceDef.hasTable (definition : KeyspaceDef) (name : String) : Bool :=
  definition.tables.any (·.name == name)

structure Column where
  name : String
  value : String
deriving DecidableEq, Repr

def column? (columns : List Column) (name : String) : Option String :=
  (columns.find? (·.name == name)).map (·.value)

/-- A row that a scan returns; an emptied row may come without columns. -/
structure Row where
  key : String
  columns : List Column
deriving DecidableEq, Repr

def upTo {α : Type} (limit : Option Nat) (list : List α) : List α :=
  match limit with
  | none => list
  | some n => list.take n

inductive Projection where
  /-- The first columns in order of name. -/
  | all (limit : Option Nat)
  /-- The named columns, as far as the row has them. -/
  | names (names : List String)
deriving DecidableEq, Repr

/-- A stretch of rows: from a first key on, up to a number of rows. -/
structure Range where
  start : String := ""
  limit : Option Nat := none
deriving DecidableEq, Repr

inductive Mutation where
  | insert (table row column value : String)
  | deleteColumn (table row column : String)
  | deleteRow (table row : String)
deriving DecidableEq, Repr

namespace Mutation

def table : Mutation → String
  | insert table .. => table
  | deleteColumn table .. => table
  | deleteRow table .. => table

def isInsert : Mutation → Bool
  | insert .. => true
  | _ => false

end Mutation

abbrev Batch : Type := List Mutation

def Batch.inserts (batch : Batch) : Nat :=
  batch.countP Mutation.isInsert

inductive ClusterError where
  | keyspaceNotFound (keyspace : String)
  | keyspaceExists (keyspace : String)
  | tableNotFound (keyspace table : String)
  | tableExists (keyspace table : String)
  | unavailable (detail : String)
deriving DecidableEq, Repr

def ClusterError.message : ClusterError → String
  | .keyspaceNotFound keyspace => s!"Keyspace [{keyspace}] not found"
  | .keyspaceExists keyspace => s!"Keyspace [{keyspace}] already exists"
  | .tableNotFound keyspace table => s!"Table [{keyspace}.{table}] not found"
  | .tableExists keyspace table => s!"Table [{keyspace}.{table}] already exists"
  | .unavailable detail => s!"Cluster unavailable: {detail}"

end Switchboard.Columns
