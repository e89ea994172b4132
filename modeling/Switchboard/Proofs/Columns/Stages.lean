import Mathlib.Data.List.Nodup
import Switchboard.Proofs.Columns.Described

/-! # Building a schema in stages

Building a schema is carrying out a list of stages: changes of which keyspaces and tables
there are, and a pause behind each of them when the builder waits. The list is settled by
what the cluster holds at the start, and every stage of it succeeds.
-/

namespace Switchboard.Columns

/-- A change of the structure of a cluster, or a pause. -/
inductive Stage where
  | drop
  | create
  | add (table : TableDef)
  | sleep (span : Duration)

namespace Stage

def step [Timer] (name : String) : Stage → Cluster.Step
  | drop => Cluster.dropKeyspace name
  | create => Cluster.createKeyspace ⟨name, "SimpleStrategy", 1, []⟩
  | add table => Cluster.createTable name table
  | sleep span => fun cluster => (.ok (), cluster.sleep span)

/-- Carries stages out in order; those behind one that fails are left out. -/
def performAll [Timer] (name : String) : List Stage → Cluster.Step
  | [], cluster => (.ok (), cluster)
  | stage :: rest, cluster =>
    match stage.step name cluster with
    | (.error e, cluster) => (.error e, cluster)
    | (.ok (), cluster) => performAll name rest cluster

def asks : Stage → Nat
  | sleep span => span.nanos
  | _ => 0

def totalAsked : List Stage → Nat
  | [] => 0
  | stage :: rest => stage.asks + totalAsked rest

def Structural (stage : Stage) : Prop :=
  ∀ span, stage ≠ .sleep span

theorem Structural.asks {stage : Stage} (structural : stage.Structural) : stage.asks = 0 := by
  cases stage with
  | sleep span => exact absurd rfl (structural span)
  | drop | create | add => rfl

/-- A stage leaves the keyspaces of other names alone. -/
theorem keyspaces_step [Timer] (stage : Stage) {name other : String} (h : other ≠ name)
    (cluster : Cluster) :
    (stage.step name cluster).2.keyspaces[other]? = cluster.keyspaces[other]? := by
  cases stage with
  | drop =>
      simp only [step, Cluster.dropKeyspace]
      split
      · exact (Maps.getElem?_erase _ _ _).trans (if_neg (Ne.symm h))
      · rfl
  | create =>
      simp only [step, Cluster.createKeyspace]
      split
      · rfl
      · exact (Maps.getElem?_insert _ _ _ _).trans (if_neg (Ne.symm h))
  | add table =>
      simp only [step, Cluster.createTable]
      split
      · rfl
      · split
        · rfl
        · exact (Maps.getElem?_insert _ _ _ _).trans (if_neg (Ne.symm h))
  | sleep span => rfl

theorem keyspaces_performAll [Timer] (stages : List Stage) {name other : String} (h : other ≠ name)
    (cluster : Cluster) :
    (performAll name stages cluster).2.keyspaces[other]? = cluster.keyspaces[other]? := by
  induction stages generalizing cluster with
  | nil => rfl
  | cons stage rest ih =>
      have first := stage.keyspaces_step h cluster
      rw [performAll]
      rcases hs : stage.step name cluster with ⟨e | done, after⟩
      · rwa [hs] at first
      · rw [hs] at first
        exact (ih after).trans first

/-- Only a pause takes time, as much as it asks for when it is not cut short. -/
theorem clock_step [Timer] (stage : Stage) (name : String) (cluster : Cluster)
    (exact : ∀ span, stage = .sleep span →
      Timer.wake cluster.clock span = cluster.clock + span.nanos) :
    (stage.step name cluster).2.clock = cluster.clock + stage.asks := by
  cases stage with
  | drop =>
      simp only [step, Cluster.dropKeyspace]
      split <;> rfl
  | create =>
      simp only [step, Cluster.createKeyspace]
      split <;> rfl
  | add table =>
      simp only [step, Cluster.createTable]
      split
      · rfl
      · split <;> rfl
  | sleep span => exact exact span rfl

/-- When the stages succeed and no pause is cut short, the time that they ask for passes. -/
theorem clock_performAll [Timer] {name : String} {stages : List Stage} {cluster after : Cluster}
    (done : performAll name stages cluster = (.ok (), after))
    (exact : ∀ span, .sleep span ∈ stages → ∀ start, cluster.clock ≤ start →
      start + span.nanos ≤ cluster.clock + totalAsked stages →
        Timer.wake start span = start + span.nanos) :
    after.clock = cluster.clock + totalAsked stages := by
  induction stages generalizing cluster with
  | nil =>
      cases done
      rfl
  | cons stage rest ih =>
      rw [totalAsked] at exact ⊢
      have first := stage.clock_step name cluster fun span same => by
        refine exact span (same ▸ List.mem_cons_self) _ (Nat.le_refl _) ?_
        rw [same, asks]
        omega
      rw [performAll] at done
      rcases hs : stage.step name cluster with ⟨e | ok, next⟩
      · rw [hs] at done
        cases done
      · rw [hs] at done first
        dsimp only at first
        rw [ih done fun span listed start late early => ?_, first, Nat.add_assoc]
        refine exact span (List.mem_cons_of_mem stage listed) start ?_ ?_ <;> omega

end Stage

/-! ## The stages of a schema -/

namespace SchemaBuilder

open Stage

/-- What a builder does behind a change. -/
def pauseStages (builder : SchemaBuilder) : List Stage :=
  if builder.waits then [.sleep builder.pause] else []

/-- The changes, each with its pause. -/
def paced (builder : SchemaBuilder) : List Stage → List Stage
  | [] => []
  | change :: rest => change :: (builder.pauseStages ++ builder.paced rest)

/-- The changes that give a cluster a keyspace with the required tables: those that it lacks when
the keyspace is there and may stay, and otherwise all of it. -/
def changes (required : List TableDef) (name : String) (dropExisting : Bool) (cluster : Cluster) :
    List Stage :=
  match cluster.describe? name with
  | none => .create :: required.map .add
  | some definition =>
    if dropExisting then .drop :: .create :: required.map .add
    else (required.filter (lacks definition)).map .add

theorem missing_of_dropKeyspace {name : String} {cluster dropped : Cluster}
    (h : Cluster.dropKeyspace name cluster = (.ok (), dropped)) :
    dropped.keyspaces[name]? = none := by
  unfold Cluster.dropKeyspace at h
  split at h
  · cases h
    exact (Maps.getElem?_erase _ _ _).trans (if_pos rfl)
  · cases h

theorem performAll_pauseStages [Timer] (builder : SchemaBuilder) (name : String) (rest : List Stage)
    (cluster : Cluster) :
    performAll name (builder.pauseStages ++ rest) cluster =
      performAll name rest (builder.settle cluster) := by
  unfold pauseStages settle
  split <;> rfl

theorem change_eq [Timer] (builder : SchemaBuilder) (name : String) (change : Stage)
    (rest : List Stage) :
    performAll name (builder.paced (change :: rest)) =
      builder.change (change.step name) (performAll name (builder.paced rest)) := by
  funext cluster
  rw [paced, performAll, SchemaBuilder.change]
  rcases change.step name cluster with ⟨e | done, after⟩
  · rfl
  · exact builder.performAll_pauseStages name _ after

theorem addTables_eq [Timer] (builder : SchemaBuilder) (name : String) (tables : List TableDef) :
    builder.addTables name tables = performAll name (builder.paced (tables.map .add)) := by
  induction tables with
  | nil => rfl
  | cons table rest ih => rw [List.map_cons, change_eq, addTables, ih, Stage.step]

/-- Building a schema is carrying out its changes with their pauses. -/
theorem build_eq [Timer] (builder : SchemaBuilder) (required : List TableDef) (name : String)
    (dropExisting : Bool) (cluster : Cluster) :
    builder.build required name dropExisting cluster =
      performAll name (builder.paced (changes required name dropExisting cluster)) cluster := by
  have create (cluster : Cluster) (missing : cluster.describe? name = none) :
      builder.complete required name cluster =
        performAll name (builder.paced (.create :: required.map .add)) cluster := by
    rw [complete, missing, change_eq, ← addTables_eq, Stage.step]
  cases hstored : cluster.describe? name with
  | none =>
      have hbuild : builder.build required name dropExisting cluster =
          builder.complete required name cluster := by
        simp [build, Cluster.hasKeyspace, hstored]
      have hchanges : changes required name dropExisting cluster =
          .create :: required.map .add := by
        simp [changes, hstored]
      rw [hbuild, hchanges, create cluster hstored]
  | some definition =>
      cases dropExisting with
      | false =>
          have hchanges : changes required name false cluster =
              (required.filter (lacks definition)).map .add := by
            simp [changes, hstored]
          rw [hchanges, ← addTables_eq]
          simp [build, complete, hstored]
      | true =>
          -- Once the keyspace is dropped the rest of the work is that of a missing one.
          have hbuild : builder.build required name true cluster =
              builder.change (Cluster.dropKeyspace name) (builder.complete required name)
                cluster := by
            simp [build, Cluster.hasKeyspace, hstored]
          have hchanges : changes required name true cluster =
              .drop :: .create :: required.map .add := by
            simp [changes, hstored]
          rw [hbuild, hchanges, change_eq, Stage.step, change, change]
          rcases hdropped : Cluster.dropKeyspace name cluster with ⟨e | done, dropped⟩
          · rfl
          · refine create (builder.settle dropped) ?_
            rw [Cluster.describe?, keyspaces_settle, missing_of_dropKeyspace hdropped]
            rfl

/-! ## What the stages achieve -/

theorem structural_of_mem_changes {required : List TableDef} {name : String}
    {dropExisting : Bool} {cluster : Cluster} {change : Stage}
    (listed : change ∈ changes required name dropExisting cluster) : change.Structural := by
  have added (tables : List TableDef) : ∀ change ∈ tables.map Stage.add, change.Structural := by
    intro change hin
    obtain ⟨table, -, rfl⟩ := List.mem_map.1 hin
    nofun
  unfold changes at listed
  split at listed
  · rcases List.mem_cons.1 listed with rfl | hin
    · nofun
    · exact added _ _ hin
  · split at listed
    · rcases List.mem_cons.1 listed with rfl | hin
      · nofun
      · rcases List.mem_cons.1 hin with rfl | hin
        · nofun
        · exact added _ _ hin
    · exact added _ _ listed

/-- A builder that waits asks for one pause for each change. -/
theorem totalAsked_paced (builder : SchemaBuilder) {changes : List Stage}
    (structural : ∀ change ∈ changes, change.Structural) :
    totalAsked (builder.paced changes) =
      if builder.waits then builder.pause.nanos * changes.length else 0 := by
  induction changes with
  | nil => simp [paced, totalAsked]
  | cons change rest ih =>
      obtain ⟨hchange, hrest⟩ := List.forall_mem_cons.1 structural
      have hpause (later : List Stage) : totalAsked (builder.pauseStages ++ later) =
          (if builder.waits then builder.pause.nanos else 0) + totalAsked later := by
        unfold pauseStages
        split <;> simp [totalAsked, asks]
      rw [paced, totalAsked, hchange.asks, hpause, ih hrest, List.length_cons]
      split
      · rw [Nat.mul_add_one]
        omega
      · rfl

theorem eq_pause_of_mem_paced {builder : SchemaBuilder} {changes : List Stage}
    (structural : ∀ change ∈ changes, change.Structural) {span : Duration}
    (listed : .sleep span ∈ builder.paced changes) : span = builder.pause := by
  induction changes with
  | nil => cases listed
  | cons change rest ih =>
      obtain ⟨hchange, hrest⟩ := List.forall_mem_cons.1 structural
      rw [paced, List.mem_cons, List.mem_append] at listed
      rcases listed with same | hpause | hin
      · exact absurd same.symm (hchange span)
      · unfold pauseStages at hpause
        split at hpause
        · cases List.mem_singleton.1 hpause
          rfl
        · cases hpause
      · exact ih hrest hin

theorem performAll_of_step [Timer] {builder : SchemaBuilder} {name : String} {change : Stage}
    {cluster after : Cluster} (done : change.step name cluster = (.ok (), after))
    (rest : List Stage) :
    performAll name (builder.paced (change :: rest)) cluster =
      performAll name (builder.paced rest) (builder.settle after) := by
  rw [change_eq, SchemaBuilder.change, done]

/-- The lacking tables of a keyspace are all added. -/
theorem performAll_lacking [Timer] (builder : SchemaBuilder) {required : List TableDef}
    {name : String} (distinct : (required.map (·.name)).Nodup) {cluster : Cluster}
    {keyspace : Keyspace} (stored : cluster.keyspaces[name]? = some keyspace)
    (described : keyspace.Described) :
    ∃ after new,
      performAll name (builder.paced ((required.filter (lacks keyspace.definition)).map .add))
        cluster = (.ok (), after) ∧
      after.keyspaces[name]? = some new ∧ keyspace.Completes required new := by
  have absent : ∀ table ∈ required.filter (lacks keyspace.definition),
      ¬ keyspace.tables.contains table.name := by
    intro table hin hheld
    have hlacks := (List.mem_filter.1 hin).2
    rw [described] at hheld
    simp [lacks, hheld] at hlacks
  have hdistinct : ((required.filter (lacks keyspace.definition)).map (·.name)).Nodup :=
    distinct.sublist (List.filter_sublist.map _)
  obtain ⟨after, hadded, hstored, -⟩ := builder.addTables_eq_ok _ stored hdistinct absent
  rw [addTables_eq] at hadded
  exact ⟨after, _, hadded, hstored, described.completes distinct⟩

/-- The keyspace that a schema is built in: the one that is there, when it may stay, and otherwise
a new one. -/
def start (name : String) (dropExisting : Bool) (cluster : Cluster) : Keyspace :=
  match cluster.keyspaces[name]? with
  | some keyspace => if dropExisting then .ofDef ⟨name, "SimpleStrategy", 1, []⟩ else keyspace
  | none => .ofDef ⟨name, "SimpleStrategy", 1, []⟩

/-- Where no keyspace is in the way, a new one is made and all the tables are added. -/
theorem performAll_create [Timer] (builder : SchemaBuilder) {required : List TableDef}
    {name : String} (distinct : (required.map (·.name)).Nodup) {cluster : Cluster}
    (missing : cluster.keyspaces[name]? = none) :
    ∃ after new,
      performAll name (builder.paced (.create :: required.map .add)) cluster = (.ok (), after) ∧
      after.keyspaces[name]? = some new ∧
      (Keyspace.ofDef ⟨name, "SimpleStrategy", 1, []⟩).Completes required new := by
  let definition : KeyspaceDef := ⟨name, "SimpleStrategy", 1, []⟩
  let created : Cluster :=
    { cluster with keyspaces := cluster.keyspaces.insert name (.ofDef definition) }
  have hcreate : Stage.create.step name cluster = (.ok (), created) := by
    simp [Stage.step, Cluster.createKeyspace, Std.ExtTreeMap.contains_eq_isSome_getElem?, missing,
      created, definition]
  have hstored : (builder.settle created).keyspaces[name]? = some (.ofDef definition) := by
    simp [created]
  have hall : required.filter (lacks definition) = required :=
    List.filter_eq_self.2 fun table _ => rfl
  have hadded := builder.performAll_lacking distinct hstored (Keyspace.described_ofDef definition)
  rw [performAll_of_step hcreate]
  rwa [show (Keyspace.ofDef definition).definition = definition from rfl, hall] at hadded

/-- The changes of a schema all succeed, and complete the keyspace that they start from. -/
theorem performAll_changes [Timer] (builder : SchemaBuilder) (required : List TableDef)
    (distinct : (required.map (·.name)).Nodup) (name : String) (dropExisting : Bool)
    {cluster : Cluster} (described : cluster.Described) :
    ∃ after new,
      performAll name (builder.paced (changes required name dropExisting cluster)) cluster =
        (.ok (), after) ∧
      after.keyspaces[name]? = some new ∧
      (start name dropExisting cluster).Completes required new := by
  cases hstored : cluster.keyspaces[name]? with
  | none =>
      simp only [changes, start, Cluster.describe?, hstored, Option.map_none]
      exact builder.performAll_create distinct hstored
  | some keyspace =>
      simp only [changes, start, Cluster.describe?, hstored, Option.map_some]
      cases dropExisting with
      | false => exact builder.performAll_lacking distinct hstored (described name keyspace hstored)
      | true =>
          let dropped : Cluster := { cluster with keyspaces := cluster.keyspaces.erase name }
          have hdrop : Stage.drop.step name cluster = (.ok (), dropped) := by
            simp [Stage.step, Cluster.dropKeyspace, Std.ExtTreeMap.contains_eq_isSome_getElem?,
              hstored, dropped]
          have hmissing : (builder.settle dropped).keyspaces[name]? = none := by
            rw [keyspaces_settle]
            exact missing_of_dropKeyspace hdrop
          rw [if_pos rfl, if_pos rfl, performAll_of_step hdrop]
          exact builder.performAll_create distinct hmissing

end SchemaBuilder

end Switchboard.Columns
