import Mathlib.Data.List.Nodup
import Switchboard.Proofs.Columns.Schema

/-! # Definitions that name the tables

A keyspace keeps the definitions of its tables beside the tables themselves. Every call made
to a cluster changes both or neither, so that a definition always names exactly the tables
that are there, also when it was given one name twice.
-/

namespace Switchboard.Columns

/-! ## Keyspaces -/

namespace Keyspace

/-- The definition names the tables that the keyspace holds, and no others. -/
def Described (keyspace : Keyspace) : Prop :=
  ∀ name, keyspace.tables.contains name = keyspace.definition.hasTable name

theorem described_ofDef (definition : KeyspaceDef) : (ofDef definition).Described := by
  intro name
  rw [Std.ExtTreeMap.contains_eq_isSome_getElem?, tables_ofDef, Option.isSome_map,
    Bool.eq_iff_iff, List.find?_isSome]
  simp [KeyspaceDef.hasTable, ofDef]

theorem Described.addTable {keyspace : Keyspace} (described : keyspace.Described)
    (table : TableDef) : (keyspace.addTable table).Described := by
  intro name
  rw [Keyspace.addTable, Std.ExtTreeMap.contains_insert, described name, Bool.eq_iff_iff]
  simp [KeyspaceDef.hasTable, or_comm]

theorem definition_addTables (keyspace : Keyspace) (tables : List TableDef) :
    (tables.foldl Keyspace.addTable keyspace).definition =
      { keyspace.definition with tables := keyspace.definition.tables ++ tables } := by
  induction tables generalizing keyspace with
  | nil => simp
  | cons table rest ih => simp [ih, Keyspace.addTable]

theorem tables_addTables (keyspace : Keyspace) {tables : List TableDef}
    (distinct : (tables.map (·.name)).Nodup)
    (absent : ∀ table ∈ tables, keyspace.tables[table.name]? = none) (name : String) :
    (tables.foldl Keyspace.addTable keyspace).tables[name]? =
      keyspace.tables[name]?.or ((tables.find? (·.name = name)).map Table.ofDef) := by
  induction tables generalizing keyspace with
  | nil => simp
  | cons table rest ih =>
      obtain ⟨hnew, hdistinct⟩ := List.nodup_cons.1 distinct
      obtain ⟨habsent, hothers⟩ := List.forall_mem_cons.1 absent
      have hrest : ∀ other ∈ rest, (keyspace.addTable table).tables[other.name]? = none := by
        intro other hin
        rw [tables_addTable, if_neg fun hname => hnew (List.mem_map.2 ⟨other, hin, hname.symm⟩)]
        exact hothers other hin
      rw [List.foldl_cons, ih (keyspace.addTable table) hdistinct hrest, tables_addTable]
      by_cases hname : table.name = name
      · subst hname
        simp [habsent]
      · simp [hname]

/-- A keyspace holds what another one held, and the required tables that the other one lacked. -/
structure Completes (required : List TableDef) (old new : Keyspace) : Prop where
  definition : new.definition =
    { old.definition with
      tables := old.definition.tables ++
        required.filter (SchemaBuilder.lacks old.definition) }
  /-- A table that was there is there unchanged, with all its rows. -/
  kept : ∀ (name : String) table, old.tables[name]? = some table → new.tables[name]? = some table
  /-- A required table that was not there is empty. -/
  added : ∀ table ∈ required, old.tables[table.name]? = none →
    new.tables[table.name]? = some (Table.ofDef table)
  others : ∀ name ∉ required.map (·.name), new.tables[name]? = old.tables[name]?

theorem find?_eq_some_of_nodup {tables : List TableDef} (distinct : (tables.map (·.name)).Nodup)
    {table : TableDef} (listed : table ∈ tables) :
    tables.find? (·.name = table.name) = some table := by
  cases hfound : tables.find? (·.name = table.name) with
  | none =>
      have hother := List.find?_eq_none.1 hfound table listed
      simp at hother
  | some first =>
      have hname : first.name = table.name := by simpa using List.find?_some hfound
      rw [List.inj_on_of_nodup_map distinct (List.mem_of_find?_eq_some hfound) listed hname]

/-- Adding the lacking tables completes a keyspace whose definition names its tables. -/
theorem Described.completes {keyspace : Keyspace} (described : keyspace.Described)
    {required : List TableDef} (distinct : (required.map (·.name)).Nodup) :
    keyspace.Completes required
      ((required.filter (SchemaBuilder.lacks keyspace.definition)).foldl Keyspace.addTable
        keyspace) := by
  have lacks_iff (table : TableDef) : SchemaBuilder.lacks keyspace.definition table ↔
      keyspace.tables[table.name]? = none := by
    rw [SchemaBuilder.lacks, ← described, Std.ExtTreeMap.contains_eq_isSome_getElem?,
      Bool.not_eq_true', Option.isSome_eq_false_iff, Option.isNone_iff_eq_none]
  have hdistinct : ((required.filter
      (SchemaBuilder.lacks keyspace.definition)).map (·.name)).Nodup :=
    distinct.sublist (List.filter_sublist.map _)
  have htables := keyspace.tables_addTables hdistinct fun table hin =>
    (lacks_iff table).1 (List.mem_filter.1 hin).2
  constructor
  · exact keyspace.definition_addTables _
  · intro name table held
    rw [htables, held]
    rfl
  · intro table hin missing
    have hlacking := List.mem_filter.2 ⟨hin, (lacks_iff table).2 missing⟩
    rw [htables, missing, find?_eq_some_of_nodup hdistinct hlacking]
    rfl
  · intro name hother
    have hnone : (required.filter (SchemaBuilder.lacks keyspace.definition)).find?
        (·.name = name) = none := by
      rw [List.find?_eq_none]
      intro table hin hname
      exact hother (List.mem_map.2 ⟨table, (List.mem_filter.1 hin).1, of_decide_eq_true hname⟩)
    rw [htables, hnone, Option.map_none, Option.or_none]

section Completes

variable {required : List TableDef} {old new : Keyspace}

theorem Completes.contains (complete : Completes required old new) {table : TableDef}
    (listed : table ∈ required) : new.tables.contains table.name := by
  rw [Std.ExtTreeMap.contains_eq_isSome_getElem?]
  cases held : old.tables[table.name]? with
  | none => rw [complete.added table listed held, Option.isSome_some]
  | some stored => rw [complete.kept table.name stored held, Option.isSome_some]

theorem Completes.hasTable (complete : Completes required old new) {table : TableDef}
    (listed : table ∈ required) : new.definition.hasTable table.name := by
  rw [complete.definition, KeyspaceDef.hasTable, List.any_append, Bool.or_eq_true]
  cases hlacks : SchemaBuilder.lacks old.definition table with
  | false =>
      left
      rwa [SchemaBuilder.lacks, Bool.not_eq_false'] at hlacks
  | true =>
      right
      exact List.any_eq_true.2 ⟨table, List.mem_filter.2 ⟨listed, hlacks⟩, by simp⟩

theorem Completes.lacks_none (complete : Completes required old new) :
    required.filter (SchemaBuilder.lacks new.definition) = [] := by
  rw [List.filter_eq_nil_iff]
  intro table listed
  simp [SchemaBuilder.lacks, complete.hasTable listed]

/-- What completes a keyspace without tables has the required ones only. -/
theorem Completes.tables_of_empty (complete : Completes required old new) (empty : old.tables = ∅)
    (name : String) :
    new.tables[name]? = (required.find? (·.name = name)).map Table.ofDef := by
  have hnone (k : String) : old.tables[k]? = none := by simp [empty]
  cases hfound : required.find? (·.name = name) with
  | none =>
      have hother : name ∉ required.map (·.name) := by
        simpa [List.find?_eq_none] using hfound
      rw [complete.others name hother, hnone]
      rfl
  | some table =>
      have hname : table.name = name := by simpa using List.find?_some hfound
      have hadded := complete.added table (List.mem_of_find?_eq_some hfound) (hnone _)
      rw [← hname, hadded]
      rfl

end Completes

theorem definition_foldl_apply (now : Nat) (batch : Batch) (keyspace : Keyspace) :
    (batch.foldl (apply now) keyspace).definition = keyspace.definition := by
  induction batch generalizing keyspace with
  | nil => rfl
  | cons mutation rest ih => exact ih (keyspace.apply now mutation)

theorem contains_foldl_apply (now : Nat) (batch : Batch) (keyspace : Keyspace) (name : String) :
    (batch.foldl (apply now) keyspace).tables.contains name = keyspace.tables.contains name := by
  induction batch generalizing keyspace with
  | nil => rfl
  | cons mutation rest ih =>
      exact (ih (keyspace.apply now mutation)).trans (contains_apply keyspace now mutation name)

/-- A batch changes rows only. -/
theorem Described.write {keyspace : Keyspace} (described : keyspace.Described) (now : Nat)
    (batch : Batch) : (keyspace.write now batch).Described := by
  intro name
  rw [Keyspace.write, contains_foldl_apply, contains_purge, definition_foldl_apply]
  exact described name

end Keyspace

/-! ## Clusters -/

namespace Cluster

/-- A call that is made to a cluster, or something that happens to it between calls. -/
inductive Call where
  | createKeyspace (definition : KeyspaceDef)
  | dropKeyspace (name : String)
  | createTable (name : String) (table : TableDef)
  | execute (name : String) (batch : Batch) (level : Consistency)
  | advance (span : Duration)
  | failReads (fail : Bool)
  | failWrites (fail : Bool)

def afterCall (cluster : Cluster) : Call → Cluster
  | .createKeyspace definition => (createKeyspace definition cluster).2
  | .dropKeyspace name => (dropKeyspace name cluster).2
  | .createTable name table => (createTable name table cluster).2
  | .execute name batch level => (execute name batch level cluster).2
  | .advance span => cluster.advance span
  | .failReads fail => { cluster with failReads := fail }
  | .failWrites fail => { cluster with failWrites := fail }

def afterCalls (cluster : Cluster) (calls : List Call) : Cluster :=
  calls.foldl afterCall cluster

def Described (cluster : Cluster) : Prop :=
  ∀ (name : String) (keyspace : Keyspace), cluster.keyspaces[name]? = some keyspace →
    keyspace.Described

theorem described_empty : Described {} := by
  intro name keyspace stored
  simp at stored

variable {cluster : Cluster}

theorem keyspace_eq_ok {name : String} {keyspace : Keyspace}
    (found : cluster.keyspace name = .ok keyspace) :
    cluster.keyspaces[name]? = some keyspace := by
  unfold Cluster.keyspace at found
  split at found
  · cases found
  · next stored hstored =>
      cases found
      exact hstored

theorem Described.createKeyspace (described : cluster.Described) (definition : KeyspaceDef) :
    (createKeyspace definition cluster).2.Described := by
  unfold Cluster.createKeyspace
  split
  · exact described
  · exact Maps.forall_insert described (Keyspace.described_ofDef definition)

theorem Described.dropKeyspace (described : cluster.Described) (name : String) :
    (dropKeyspace name cluster).2.Described := by
  unfold Cluster.dropKeyspace
  split
  · exact Maps.forall_erase described name
  · exact described

theorem Described.createTable (described : cluster.Described) (name : String) (table : TableDef) :
    (createTable name table cluster).2.Described := by
  unfold Cluster.createTable
  split
  · exact described
  · next keyspace found =>
      split
      · exact described
      · have before := described name keyspace (keyspace_eq_ok found)
        exact Maps.forall_insert described (before.addTable table)

theorem Described.execute (described : cluster.Described) (name : String) (batch : Batch)
    (level : Consistency) : (execute name batch level cluster).2.Described := by
  have noted : (cluster.noteLevel level).Described := by
    simpa [Described] using described
  unfold Cluster.execute written
  split
  · exact noted
  · next keyspaces accepted =>
      split at accepted
      · cases accepted
      · split at accepted
        · cases accepted
        · next keyspace found =>
            split at accepted
            · cases accepted
            · cases accepted
              have before := described name keyspace (keyspace_eq_ok found)
              exact Maps.forall_insert described (before.write cluster.clock batch)

theorem Described.afterCall (described : cluster.Described) (call : Call) :
    (cluster.afterCall call).Described := by
  cases call with
  | createKeyspace definition => exact described.createKeyspace definition
  | dropKeyspace name => exact described.dropKeyspace name
  | createTable name table => exact described.createTable name table
  | execute name batch level => exact described.execute name batch level
  | advance | failReads | failWrites => exact described

/-- After every history of calls the definitions name the tables that are there. -/
theorem Described.afterCalls (described : cluster.Described) (calls : List Call) :
    (cluster.afterCalls calls).Described := by
  induction calls generalizing cluster with
  | nil => exact described
  | cons call rest ih => exact ih (described.afterCall call)

end Cluster

end Switchboard.Columns
