import Switchboard.Directory.Replicated.Opening
import Switchboard.Proofs.Columns.Stages

/-! # Bringing a schema into shape

Opening a directory on a cluster with any past carries out the changes that the schema is
short of and nothing else. It succeeds whenever the contact point is one of the cluster's,
and opening it again finds nothing left to do.
-/

namespace Switchboard.Replicated

open Switchboard.Columns

/-- The structural changes that opening makes: all of the schema when it is built anew, what is
missing from it otherwise. -/
def changes (settings : StoreSettings) (cluster : Cluster) : List Stage :=
  SchemaBuilder.changes Layout.tables settings.keyspace settings.recreateSchema cluster

def stages (settings : StoreSettings) (cluster : Cluster) : List Stage :=
  settings.schemaBuilder.paced (changes settings cluster)

theorem connect_eq_ok_iff (host : String) (port : UInt16) :
    Cluster.connect host port = .ok () ↔
      host ∈ Cluster.localHosts ∧ port = Cluster.localPort := by
  unfold Cluster.connect
  split
  · next here => simpa using here
  · next elsewhere => simpa using elsewhere

variable [Timer] {settings : StoreSettings} {cluster after : Cluster}

/-- A cluster that can be reached goes through the stages. -/
theorem prepare_of_stages
    (reached : Cluster.connect settings.host settings.port = .ok ())
    (done : Stage.performAll settings.keyspace (stages settings cluster) cluster =
      (.ok (), after)) :
    prepare settings cluster = (.ok (), after) := by
  have built (context : String) (dropExisting : Bool)
      (same : SchemaBuilder.changes Layout.tables settings.keyspace dropExisting cluster =
        changes settings cluster) :
      prepareWith context
        (settings.schemaBuilder.build Layout.tables settings.keyspace dropExisting) cluster =
        (.ok (), after) := by
    rw [stages, ← same, ← SchemaBuilder.build_eq] at done
    rw [prepareWith, done]
    rfl
  unfold prepare
  rw [reached]
  simp only
  split
  · next anew =>
      refine built _ true ?_
      rcases Bool.or_eq_true_iff.1 anew with hrecreate | hmissing
      · rw [changes, hrecreate]
      · have hnone : cluster.describe? settings.keyspace = none := by
          simpa [Cluster.hasKeyspace] using hmissing
        simp [changes, SchemaBuilder.changes, hnone]
  · next standing =>
      obtain ⟨hkeep, hthere⟩ : settings.recreateSchema = false ∧
          cluster.hasKeyspace settings.keyspace = true := by
        simpa using standing
      split
      · exact built _ false (by rw [changes, hkeep])
      · next complete =>
          -- A complete schema lacks no table, so that there is no stage.
          obtain ⟨definition, hdefinition⟩ := Option.isSome_iff_exists.1 hthere
          have hlacking : Layout.tables.filter (SchemaBuilder.lacks definition) = [] := by
            rw [List.filter_eq_nil_iff]
            simpa [SchemaBuilder.isComplete, hdefinition] using complete
          have hnothing : stages settings cluster = [] := by
            rw [stages, changes, hkeep]
            simp [SchemaBuilder.changes, hdefinition, hlacking, SchemaBuilder.paced]
          rw [hnothing, Stage.performAll] at done
          cases done
          rfl

/-- A cluster that cannot be reached stays as it is. -/
theorem openOn_of_unreached {e : ClusterError}
    (unreached : Cluster.connect settings.host settings.port = .error e) (cluster : Cluster) :
    ∃ refusal, openOn settings cluster = (.error refusal, cluster) := by
  simp [openOn, prepare, unreached, Except.map]

theorem openOn_of_stages (reached : Cluster.connect settings.host settings.port = .ok ())
    (done : Stage.performAll settings.keyspace (stages settings cluster) cluster =
      (.ok (), after)) :
    openOn settings cluster = (.ok ⟨after, settings.keyspace⟩, after) := by
  rw [openOn, prepare_of_stages reached done]
  rfl

/-! ## The shape of the schema -/

/-- What opening a directory makes of a cluster, and of the keyspace of the directory. -/
structure Shaped (settings : StoreSettings) (before after : Cluster) (keyspace : Keyspace) :
    Prop where
  stored : after.keyspaces[settings.keyspace]? = some keyspace
  others : ∀ name ≠ settings.keyspace, after.keyspaces[name]? = before.keyspaces[name]?
  /-- All the tables are there. -/
  held : ∀ table ∈ Layout.tables,
    keyspace.definition.hasTable table.name ∧ keyspace.tables.contains table.name
  /-- A schema that is built anew holds those tables only, all of them empty. -/
  anew : settings.recreateSchema ∨ before.keyspaces[settings.keyspace]? = none →
    keyspace.definition = ⟨settings.keyspace, "SimpleStrategy", 1, Layout.tables⟩ ∧
      ∀ name, keyspace.tables[name]? = (Layout.tables.find? (·.name = name)).map Table.ofDef
  /-- A schema that stays keeps its tables with their rows, and the missing ones are added. -/
  completed : ∀ old, settings.recreateSchema = false →
    before.keyspaces[settings.keyspace]? = some old → old.Completes Layout.tables keyspace
  /-- The stages are carried out in order and all succeed. -/
  performed : Stage.performAll settings.keyspace (stages settings before) before = (.ok (), after)
  /-- The pauses ask for one wait a change, or for none. -/
  asked : Stage.totalAsked (stages settings before) =
    if settings.waitForSync then
      settings.schemaWait.nanos * (changes settings before).length
    else 0
  /-- As long as the timer cuts no pause short, that much time passes. -/
  slept : (∀ start, before.clock ≤ start →
      start + settings.schemaWait.nanos ≤
        before.clock + Stage.totalAsked (stages settings before) →
      Timer.wake start settings.schemaWait = start + settings.schemaWait.nanos) →
    after.clock = before.clock + Stage.totalAsked (stages settings before)
  /-- Opening the keyspace again finds nothing to do. -/
  settled : ∀ later : StoreSettings, later.keyspace = settings.keyspace →
    later.recreateSchema = false → Cluster.connect later.host later.port = .ok () →
    stages later after = [] ∧ openOn later after = (.ok ⟨after, settings.keyspace⟩, after)

/-- The keyspace in its shape has nothing that a later opening would have to change. -/
theorem openOn_of_completed {keyspace old : Keyspace}
    (stored : after.keyspaces[settings.keyspace]? = some keyspace)
    (complete : old.Completes Layout.tables keyspace) {later : StoreSettings}
    (same : later.keyspace = settings.keyspace) (keep : later.recreateSchema = false)
    (reached : Cluster.connect later.host later.port = .ok ()) :
    stages later after = [] ∧ openOn later after = (.ok ⟨after, settings.keyspace⟩, after) := by
  have hnothing : stages later after = [] := by
    rw [stages, changes, keep, same]
    simp [SchemaBuilder.changes, Cluster.describe?, stored, complete.lacks_none,
      SchemaBuilder.paced]
  have hdone : Stage.performAll later.keyspace (stages later after) after = (.ok (), after) := by
    rw [hnothing, Stage.performAll]
  refine ⟨hnothing, ?_⟩
  rw [← same]
  exact openOn_of_stages reached hdone

/-- Where every definition names the tables that are there, opening brings the schema into
shape. -/
theorem shaped_of_reached (described : cluster.Described)
    (reached : Cluster.connect settings.host settings.port = .ok ()) :
    ∃ after keyspace, openOn settings cluster = (.ok ⟨after, settings.keyspace⟩, after) ∧
      Shaped settings cluster after keyspace := by
  obtain ⟨after, keyspace, performed, stored, complete⟩ :=
    settings.schemaBuilder.performAll_changes Layout.tables (by decide) settings.keyspace
      settings.recreateSchema described
  have structural : ∀ change ∈ changes settings cluster, change.Structural := fun change hin =>
    SchemaBuilder.structural_of_mem_changes hin
  refine ⟨after, keyspace, openOn_of_stages reached performed, ?_⟩
  constructor
  case stored => exact stored
  case others =>
    intro name hother
    have hframe := Stage.keyspaces_performAll (stages settings cluster) hother cluster
    rwa [show Stage.performAll settings.keyspace (stages settings cluster) cluster =
      (.ok (), after) from performed] at hframe
  case held => exact fun table hin => ⟨complete.hasTable hin, complete.contains hin⟩
  case anew =>
    intro hnew
    have hstart : SchemaBuilder.start settings.keyspace settings.recreateSchema cluster =
        .ofDef ⟨settings.keyspace, "SimpleStrategy", 1, []⟩ := by
      unfold SchemaBuilder.start
      rcases hnew with hrecreate | hmissing
      · simp only [hrecreate, if_true]
        split <;> rfl
      · rw [hmissing]
    rw [hstart] at complete
    exact ⟨complete.definition, complete.tables_of_empty rfl⟩
  case completed =>
    intro old hkeep hold
    have hstart : SchemaBuilder.start settings.keyspace settings.recreateSchema cluster =
        old := by
      simp [SchemaBuilder.start, hkeep, hold]
    rwa [hstart] at complete
  case performed => exact performed
  case asked => exact settings.schemaBuilder.totalAsked_paced structural
  case slept =>
    intro exact
    refine Stage.clock_performAll performed fun span listed => ?_
    obtain rfl := SchemaBuilder.eq_pause_of_mem_paced structural listed
    exact exact
  case settled =>
    intro later same keep hreached
    exact openOn_of_completed stored complete same keep hreached

/-- A directory opens on a cluster with any past exactly when it can be reached, and brings the
schema into shape then; a cluster that cannot be reached is left alone. -/
theorem opens_in_shape (calls : List Cluster.Call) (settings : StoreSettings) :
    let cluster := Cluster.afterCalls {} calls
    ((∃ r, (openOn settings cluster).1 = .ok r) ↔
      settings.host ∈ Cluster.localHosts ∧ settings.port = Cluster.localPort) ∧
    (∀ e, (openOn settings cluster).1 = .error e → (openOn settings cluster).2 = cluster) ∧
    (∀ r, (openOn settings cluster).1 = .ok r →
      r = ⟨(openOn settings cluster).2, settings.keyspace⟩ ∧
        ∃ keyspace, Shaped settings cluster r.cluster keyspace) := by
  intro cluster
  have described : cluster.Described := Cluster.described_empty.afterCalls calls
  rw [← connect_eq_ok_iff]
  cases reached : Cluster.connect settings.host settings.port with
  | error e =>
      obtain ⟨refusal, hopened⟩ := openOn_of_unreached reached cluster
      simp [hopened]
  | ok done =>
      obtain ⟨after, keyspace, hopened, shaped⟩ := shaped_of_reached described reached
      rw [hopened]
      refine ⟨by simp, by simp, ?_⟩
      intro r hr
      cases hr
      exact ⟨rfl, keyspace, shaped⟩

end Switchboard.Replicated
