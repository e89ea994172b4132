import Switchboard.Columns.Table

/-! # An embedded cluster

A single-replica cluster that answers at its local contact point only.  A batch
is checked as a whole before anything is changed.  Reads and writes can be made
to fail, and the cluster carries its own clock, which only `advance` and `sleep` move.
-/

namespace Switchboard.Columns

structure Keyspace where
  definition : KeyspaceDef
  tables : Std.ExtTreeMap String Table
deriving DecidableEq

namespace Keyspace

/-- The keyspace of a definition, its tables empty; of two tables with one name the later counts. -/
def ofDef (definition : KeyspaceDef) : Keyspace where
  definition
  tables := definition.tables.foldl (fun tables t => tables.insert t.name (Table.ofDef t)) ∅

def addTable (keyspace : Keyspace) (table : TableDef) : Keyspace where
  definition := { keyspace.definition with tables := keyspace.definition.tables ++ [table] }
  tables := keyspace.tables.insert table.name (Table.ofDef table)

def apply (now : Nat) (keyspace : Keyspace) (mutation : Mutation) : Keyspace :=
  { keyspace with
    tables := keyspace.tables.modify mutation.table fun table => table.apply now mutation }

def purge (keyspace : Keyspace) (now : Nat) : Keyspace :=
  { keyspace with tables := keyspace.tables.map fun _ table => table.purge now }

/-- Purges every table and then makes the changes of a batch in order. -/
def write (keyspace : Keyspace) (now : Nat) (batch : Batch) : Keyspace :=
  batch.foldl (apply now) (keyspace.purge now)

def missingTable? (keyspace : Keyspace) (batch : Batch) : Option String :=
  (batch.map Mutation.table).find? fun table => !keyspace.tables.contains table

end Keyspace

structure Cluster where
  keyspaces : Std.ExtTreeMap String Keyspace := ∅
  failReads : Bool := false
  failWrites : Bool := false
  /-- The consistency levels that data calls have asked for. -/
  levels : List Consistency := []
  /-- The time in nanoseconds. -/
  clock : Nat := 0
deriving DecidableEq

namespace Cluster

def localPort : UInt16 := 9160

def localHosts : List String := ["localhost", "127.0.0.1", "::1"]

def connect (host : String) (port : UInt16) : Except ClusterError Unit :=
  if localHosts.contains host && port == localPort then .ok ()
  else .error <| .unavailable <|
    s!"no cluster reachable at {host}:{port.toNat}, only the embedded store at " ++
      s!"localhost:{localPort.toNat} is available"

/-- The time in whole milliseconds. -/
def now (cluster : Cluster) : Nat :=
  (Duration.mk cluster.clock).toNat

def advance (cluster : Cluster) (span : Duration) : Cluster :=
  { cluster with clock := cluster.clock + span.nanos }

def sleep [Timer] (cluster : Cluster) (span : Duration) : Cluster :=
  { cluster with clock := Timer.wake cluster.clock span }

def noteLevel (cluster : Cluster) (level : Consistency) : Cluster :=
  if level ∈ cluster.levels then cluster
  else { cluster with levels := cluster.levels ++ [level] }

def keyspace (cluster : Cluster) (name : String) : Except ClusterError Keyspace :=
  match cluster.keyspaces[name]? with
  | none => .error (.keyspaceNotFound name)
  | some keyspace => .ok keyspace

def describe? (cluster : Cluster) (name : String) : Option KeyspaceDef :=
  cluster.keyspaces[name]?.map (·.definition)

def hasKeyspace (cluster : Cluster) (name : String) : Bool :=
  (cluster.describe? name).isSome

abbrev Step : Type := Cluster → Except ClusterError Unit × Cluster

def createKeyspace (definition : KeyspaceDef) : Step := fun cluster =>
  if cluster.keyspaces.contains definition.name then
    (.error (.keyspaceExists definition.name), cluster)
  else
    let keyspaces := cluster.keyspaces.insert definition.name (Keyspace.ofDef definition)
    (.ok (), { cluster with keyspaces })

def dropKeyspace (name : String) : Step := fun cluster =>
  if cluster.keyspaces.contains name then
    (.ok (), { cluster with keyspaces := cluster.keyspaces.erase name })
  else (.error (.keyspaceNotFound name), cluster)

def createTable (name : String) (table : TableDef) : Step := fun cluster =>
  match cluster.keyspace name with
  | .error e => (.error e, cluster)
  | .ok keyspace =>
    if keyspace.tables.contains table.name then (.error (.tableExists name table.name), cluster)
    else
      let keyspaces := cluster.keyspaces.insert name (keyspace.addTable table)
      (.ok (), { cluster with keyspaces })

def written (cluster : Cluster) (name : String) (batch : Batch) :
    Except ClusterError (Std.ExtTreeMap String Keyspace) :=
  if cluster.failWrites then .error (.unavailable "writes disabled")
  else match cluster.keyspace name with
    | .error e => .error e
    | .ok keyspace =>
      match keyspace.missingTable? batch with
      | some table => .error (.tableNotFound name table)
      | none => .ok (cluster.keyspaces.insert name (keyspace.write cluster.clock batch))

def execute (name : String) (batch : Batch) (level : Consistency) : Step := fun cluster =>
  let noted := cluster.noteLevel level
  match cluster.written name batch with
  | .error e => (.error e, noted)
  | .ok keyspaces => (.ok (), { noted with keyspaces })

def readable (cluster : Cluster) (name table : String) : Except ClusterError Table :=
  if cluster.failReads then .error (.unavailable "reads disabled")
  else match cluster.keyspace name with
    | .error e => .error e
    | .ok keyspace =>
      match keyspace.tables[table]? with
      | none => .error (.tableNotFound name table)
      | some stored => .ok stored

def row (cluster : Cluster) (name table key : String) : Except ClusterError (List Column) :=
  (cluster.readable name table).map (·.columns key)

def scan (cluster : Cluster) (name table : String) (range : Range) (projection : Projection) :
    Except ClusterError (List Row) :=
  (cluster.readable name table).map (·.scan range projection)

/-- How many rows a table holds, emptied ones included; zero for a missing table. -/
def rowCount (cluster : Cluster) (name table : String) : Nat :=
  match cluster.keyspaces[name]? with
  | none => 0
  | some keyspace => (keyspace.tables[table]?.map (·.rows.size)).getD 0

end Cluster

end Switchboard.Columns
