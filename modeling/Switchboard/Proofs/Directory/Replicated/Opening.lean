import Switchboard.Directory.Replicated.Opening
import Switchboard.Proofs.Columns.Schema
import Switchboard.Proofs.Directory.Replicated.Access

/-! # A freshly opened directory

On a cluster without keyspaces the directory opens whenever the cluster can be reached.
It is ready then, it holds nothing, and the switches are those of the cluster.
-/

namespace Switchboard.Replicated

open Switchboard.Columns

def Empty (r : Replicated) : Prop :=
  ∀ table key, r.contents table key = ∅

variable [Timer] {settings : StoreSettings} {cluster : Cluster}

/-- What opening leaves behind on a cluster without keyspaces. -/
theorem openOn_of_connect (empty : cluster.keyspaces = ∅)
    (reached : Cluster.connect settings.host settings.port = .ok ()) :
    ∃ r keyspace, openOn settings cluster = (.ok r, r.cluster) ∧ r.Ready keyspace ∧ r.Empty ∧
      cluster.SameSwitches r.cluster := by
  let definition : KeyspaceDef := ⟨settings.keyspace, "SimpleStrategy", 1, []⟩
  let created : Cluster :=
    { cluster with
      keyspaces := cluster.keyspaces.insert definition.name (Keyspace.ofDef definition) }
  have hcreate : Cluster.createKeyspace definition cluster = (.ok (), created) := by
    simp [Cluster.createKeyspace, empty, created]
  have hmissing : cluster.describe? settings.keyspace = none := by
    simp [Cluster.describe?, empty]
  have hstored : (settings.schemaBuilder.settle created).keyspaces[settings.keyspace]? =
      some (Keyspace.ofDef definition) := by
    simp [created, definition]
  obtain ⟨built, hbuilt, hkeyspace, hreads, hwrites⟩ :=
    settings.schemaBuilder.addTables_eq_ok Layout.tables hstored (by decide)
      (by intro table _; simp [Keyspace.ofDef, definition])
  have hsettled := SchemaBuilder.sameSwitches_settle settings.schemaBuilder created
  have hbuild : settings.schemaBuilder.build Layout.tables settings.keyspace true cluster =
      (.ok (), built) := by
    simp only [SchemaBuilder.build, Cluster.hasKeyspace, hmissing, Option.isSome_none,
      Bool.and_false, Bool.false_eq_true, if_false, SchemaBuilder.complete, SchemaBuilder.change]
    rw [show (⟨settings.keyspace, "SimpleStrategy", 1, []⟩ : KeyspaceDef) = definition from rfl,
      hcreate]
    exact hbuilt
  have hprepare : prepare settings cluster = (.ok (), built) := by
    simp [prepare, reached, Cluster.hasKeyspace, hmissing, prepareWith, hbuild, Except.mapError]
  have blank : (Layout.tables.foldl Keyspace.addTable (Keyspace.ofDef definition)).Blank :=
    (Keyspace.blank_of_no_tables (by simp [Keyspace.ofDef, definition])).addTables Layout.tables
  have ready : (⟨built, settings.keyspace⟩ : Replicated).Ready
      (Layout.tables.foldl Keyspace.addTable (Keyspace.ofDef definition)) := by
    refine ⟨hkeyspace, blank.orderly, fun table htable => ?_⟩
    exact Keyspace.grace?_addTables _ (by decide) htable
  refine ⟨⟨built, settings.keyspace⟩, _, ?_, ready, ?_, ?_⟩
  · simp [openOn, hprepare, Except.map]
  · intro table key
    rw [ready.contents_eq]
    exact blank.empty table key
  · exact ⟨hreads.trans hsettled.failReads, hwrites.trans hsettled.failWrites⟩

/-- A directory that opens on a cluster without keyspaces. -/
theorem ready_of_openOn (empty : cluster.keyspaces = ∅) {r : Replicated} {cluster' : Cluster}
    (opened : openOn settings cluster = (.ok r, cluster')) :
    (∃ keyspace, r.Ready keyspace) ∧ r.Empty ∧ cluster.SameSwitches r.cluster := by
  cases reached : Cluster.connect settings.host settings.port with
  | error e => simp [openOn, prepare, reached, Except.map] at opened
  | ok done =>
      obtain ⟨r', keyspace, hopened, ready, hempty, same⟩ := openOn_of_connect empty reached
      rw [hopened] at opened
      cases opened
      exact ⟨⟨keyspace, ready⟩, hempty, same⟩

end Switchboard.Replicated
