import Switchboard.Columns.Cluster

/-! # Building a schema

A keyspace with a list of required tables.  Structural changes take a while to
reach every replica, so a pause follows each of them.
-/

namespace Switchboard.Columns

structure SchemaBuilder where
  /-- The pause after a structural change. -/
  pause : Duration := .ofMillis 200
  /-- When false, there is no pause. -/
  waits : Bool := true
deriving DecidableEq, Repr

namespace SchemaBuilder

def lacks (definition : KeyspaceDef) (table : TableDef) : Bool :=
  !definition.hasTable table.name

def isComplete (required : List TableDef) (cluster : Cluster) (keyspace : String) : Bool :=
  match cluster.describe? keyspace with
  | none => false
  | some definition => !required.any (lacks definition)

/-- Waits until a structural change has reached every replica. -/
def settle [Timer] (builder : SchemaBuilder) (cluster : Cluster) : Cluster :=
  if builder.waits then cluster.sleep builder.pause else cluster

/-- A structural change and the pause after it; what follows is left out when it fails. -/
def change [Timer] (builder : SchemaBuilder) (step next : Cluster.Step) :
    Cluster.Step := fun cluster =>
  match step cluster with
  | (.error e, cluster) => (.error e, cluster)
  | (.ok (), cluster) => next (builder.settle cluster)

def addTables [Timer] (builder : SchemaBuilder) (keyspace : String) : List TableDef → Cluster.Step
  | [] => fun cluster => (.ok (), cluster)
  | table :: rest =>
    builder.change (Cluster.createTable keyspace table) (builder.addTables keyspace rest)

def complete [Timer] (builder : SchemaBuilder) (required : List TableDef) (keyspace : String) :
    Cluster.Step := fun cluster =>
  match cluster.describe? keyspace with
  | some definition => builder.addTables keyspace (required.filter (lacks definition)) cluster
  | none =>
    builder.change (Cluster.createKeyspace ⟨keyspace, "SimpleStrategy", 1, []⟩)
      (builder.addTables keyspace required) cluster

def build [Timer] (builder : SchemaBuilder) (required : List TableDef) (keyspace : String)
    (dropExisting : Bool) : Cluster.Step := fun cluster =>
  if dropExisting && cluster.hasKeyspace keyspace then
    builder.change (Cluster.dropKeyspace keyspace) (builder.complete required keyspace) cluster
  else builder.complete required keyspace cluster

end SchemaBuilder

end Switchboard.Columns
