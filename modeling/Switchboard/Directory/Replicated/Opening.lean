import Switchboard.Directory.Replicated.Basic

/-! # Opening the replicated directory -/

namespace Switchboard.Replicated

open Switchboard.Columns

/-- A change of the schema, whose refusal is introduced by `context`. -/
def prepareWith (context : String) (step : Cluster.Step) (cluster : Cluster) :
    Except DirectoryError Unit × Cluster :=
  let (result, cluster) := step cluster
  (result.mapError (failure context), cluster)

/-- Reaches the cluster and brings its schema into shape: built anew when that is asked for or
the keyspace is missing, completed when tables are missing. -/
def prepare [Timer] (settings : StoreSettings) (cluster : Cluster) :
    Except DirectoryError Unit × Cluster :=
  let builder := settings.schemaBuilder
  let keyspace := settings.keyspace
  match Cluster.connect settings.host settings.port with
  | .error e =>
    (.error (failure s!"Could not reach cluster at [{settings.contactPoint}]" e), cluster)
  | .ok () =>
    if settings.recreateSchema || !cluster.hasKeyspace keyspace then
      prepareWith s!"Could not create schema [{keyspace}]"
        (builder.build Layout.tables keyspace true) cluster
    else if !SchemaBuilder.isComplete Layout.tables cluster keyspace then
      prepareWith s!"Could not repair schema [{keyspace}]"
        (builder.build Layout.tables keyspace false) cluster
    else (.ok (), cluster)

/-- Opens the directory on a cluster.  The cluster comes back also when it cannot be opened. -/
def openOn [Timer] (settings : StoreSettings) (cluster : Cluster) :
    Except DirectoryError Replicated × Cluster :=
  let (result, cluster) := prepare settings cluster
  (result.map fun () => ⟨cluster, settings.keyspace⟩, cluster)

end Switchboard.Replicated
