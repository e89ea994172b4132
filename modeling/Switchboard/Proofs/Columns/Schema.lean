import Switchboard.Columns.Schema
import Switchboard.Proofs.Columns.Keyspace

/-! # Schemas that are built

Tables with distinct names that a keyspace lacks are all added to it, and a keyspace
without cells has none after that. Neither the pauses nor the switches play a part.
-/

namespace Switchboard.Columns

/-! ## Keyspaces without cells -/

/-- The keyspace holds no cell, and no tombstone is out of place. -/
structure Keyspace.Blank (keyspace : Keyspace) : Prop where
  orderly : keyspace.Orderly
  empty : ∀ table key, keyspace.contents table key = ∅

theorem Keyspace.blank_of_no_tables {keyspace : Keyspace} (h : keyspace.tables = ∅) :
    keyspace.Blank := by
  constructor
  · intro name table htable
    simp [h] at htable
  · intro table key
    simp [contents, h]

theorem Keyspace.getElem?_foldl_insert (defs : List TableDef) (tables : Std.ExtTreeMap String Table)
    (name : String) :
    (defs.foldl (fun tables t => tables.insert t.name (Table.ofDef t)) tables)[name]? =
      ((defs.reverse.find? (·.name = name)).map Table.ofDef).or tables[name]? := by
  induction defs generalizing tables with
  | nil => rfl
  | cons first rest ih =>
      rw [List.foldl_cons, ih, List.reverse_cons, List.find?_append, Maps.getElem?_insert]
      cases rest.reverse.find? (·.name = name) with
      | some later => rfl
      | none =>
          by_cases hn : first.name = name
          · simp [hn]
          · simp [hn]

/-- A keyspace that is made from its definition holds the tables of the definition. -/
theorem Keyspace.tables_ofDef (definition : KeyspaceDef) (name : String) :
    (ofDef definition).tables[name]? =
      (definition.tables.reverse.find? (·.name = name)).map Table.ofDef := by
  rw [ofDef, getElem?_foldl_insert]
  simp

theorem Keyspace.contains_ofDef (definition : KeyspaceDef) {name : String}
    (listed : name ∈ definition.tables.map (·.name)) :
    (ofDef definition).tables.contains name := by
  obtain ⟨table, hin, rfl⟩ := List.mem_map.1 listed
  rw [Std.ExtTreeMap.contains_eq_isSome_getElem?, tables_ofDef, Option.isSome_map,
    List.find?_isSome]
  exact ⟨table, List.mem_reverse.2 hin, by simp⟩

theorem Keyspace.rows_ofDef (definition : KeyspaceDef) {name : String} {table : Table}
    (held : (ofDef definition).tables[name]? = some table) : table.rows = ∅ := by
  rw [tables_ofDef, Option.map_eq_some_iff] at held
  obtain ⟨_, _, rfl⟩ := held
  rfl

theorem Keyspace.tables_addTable (keyspace : Keyspace) (table : TableDef) (name : String) :
    (keyspace.addTable table).tables[name]? =
      if table.name = name then some (Table.ofDef table) else keyspace.tables[name]? :=
  Maps.getElem?_insert ..

theorem Keyspace.Orderly.addTable {keyspace : Keyspace} (orderly : keyspace.Orderly)
    (table : TableDef) : (keyspace.addTable table).Orderly :=
  Maps.forall_insert orderly (Table.Orderly.of_no_rows rfl)

theorem Table.cells_ofDef (definition : TableDef) : (ofDef definition).cells = fun _ => ∅ := by
  funext key
  have hrow : (ofDef definition).rows[key]? = none := by simp [ofDef]
  exact cells_of_no_row hrow

theorem Keyspace.Blank.addTable {keyspace : Keyspace} (h : keyspace.Blank) (table : TableDef) :
    (keyspace.addTable table).Blank := by
  refine ⟨h.orderly.addTable table, ?_⟩
  intro name key
  rw [contents, tables_addTable]
  by_cases hn : table.name = name
  · rw [if_pos hn, Option.map_some, Option.getD_some, Table.cells_ofDef]
  · rw [if_neg hn]
    exact h.empty name key

theorem Keyspace.Blank.addTables {keyspace : Keyspace} (h : keyspace.Blank)
    (tables : List TableDef) : (tables.foldl Keyspace.addTable keyspace).Blank := by
  induction tables generalizing keyspace with
  | nil => exact h
  | cons table rest ih => exact ih (h.addTable table)

theorem Keyspace.grace?_addTable (keyspace : Keyspace) (table : TableDef) (name : String) :
    (keyspace.addTable table).grace? name =
      if table.name = name then some (table.grace.nanos)
      else keyspace.grace? name := by
  rw [grace?, tables_addTable]
  split <;> rfl

theorem Keyspace.grace?_addTables_of_other (keyspace : Keyspace) {tables : List TableDef}
    {name : String} (other : name ∉ tables.map (·.name)) :
    (tables.foldl addTable keyspace).grace? name = keyspace.grace? name := by
  induction tables generalizing keyspace with
  | nil => rfl
  | cons table rest ih =>
      rw [List.map_cons, List.mem_cons, not_or] at other
      rw [List.foldl_cons, ih (keyspace.addTable table) other.2, grace?_addTable,
        if_neg (Ne.symm other.1)]

/-- The tables that were added have the grace periods of their definitions. -/
theorem Keyspace.grace?_addTables (keyspace : Keyspace) {tables : List TableDef}
    (distinct : (tables.map (·.name)).Nodup) {table : TableDef} (added : table ∈ tables) :
    (tables.foldl addTable keyspace).grace? table.name =
      some (table.grace.nanos) := by
  induction tables generalizing keyspace with
  | nil => cases added
  | cons first rest ih =>
      obtain ⟨hnew, hrest⟩ := List.nodup_cons.1 distinct
      rw [List.foldl_cons]
      rcases List.mem_cons.1 added with rfl | hin
      · rw [grace?_addTables_of_other _ hnew, grace?_addTable, if_pos rfl]
      · exact ih (keyspace.addTable first) hrest hin

/-! ## Building -/

structure Cluster.SameSwitches (cluster cluster' : Cluster) : Prop where
  failReads : cluster'.failReads = cluster.failReads
  failWrites : cluster'.failWrites = cluster.failWrites

namespace SchemaBuilder

@[simp] theorem keyspaces_settle [Timer] (builder : SchemaBuilder) (cluster : Cluster) :
    (builder.settle cluster).keyspaces = cluster.keyspaces := by
  unfold settle
  split <;> rfl

theorem sameSwitches_settle [Timer] (builder : SchemaBuilder) (cluster : Cluster) :
    cluster.SameSwitches (builder.settle cluster) := by
  unfold settle
  split <;> exact ⟨rfl, rfl⟩

/-- Tables with distinct names are added one after the other. -/
theorem addTables_eq_ok [Timer] (builder : SchemaBuilder) {name : String}
    (tables : List TableDef) {cluster : Cluster} {keyspace : Keyspace}
    (stored : cluster.keyspaces[name]? = some keyspace)
    (distinct : (tables.map (·.name)).Nodup)
    (absent : ∀ table ∈ tables, ¬ keyspace.tables.contains table.name) :
    ∃ cluster', builder.addTables name tables cluster = (.ok (), cluster') ∧
      cluster'.keyspaces[name]? = some (tables.foldl Keyspace.addTable keyspace) ∧
      cluster.SameSwitches cluster' := by
  induction tables generalizing cluster keyspace with
  | nil => exact ⟨cluster, rfl, stored, rfl, rfl⟩
  | cons table rest ih =>
      obtain ⟨hnew, hrest⟩ := List.nodup_cons.1 distinct
      let created : Cluster :=
        { cluster with keyspaces := cluster.keyspaces.insert name (keyspace.addTable table) }
      have hcreate : Cluster.createTable name table cluster = (.ok (), created) := by
        simp [Cluster.createTable, Cluster.keyspace, stored, absent table List.mem_cons_self,
          created]
      have hstored : (builder.settle created).keyspaces[name]? =
          some (keyspace.addTable table) := by
        simp [created]
      have habsent : ∀ other ∈ rest, ¬ (keyspace.addTable table).tables.contains other.name := by
        intro other hother hcontains
        have hcases : table.name = other.name ∨ keyspace.tables.contains other.name := by
          simpa [Keyspace.addTable, Std.ExtTreeMap.contains_insert] using hcontains
        rcases hcases with he | hc
        · exact hnew (List.mem_map.2 ⟨other, hother, he.symm⟩)
        · exact absent other (List.mem_cons_of_mem table hother) hc
      obtain ⟨cluster', hbuilt, hkeyspace, hreads, hwrites⟩ := ih hstored hrest habsent
      have hsettled := sameSwitches_settle builder created
      refine ⟨cluster', ?_, hkeyspace, ?_⟩
      · rw [addTables, change, hcreate]
        exact hbuilt
      · exact ⟨hreads.trans hsettled.failReads, hwrites.trans hsettled.failWrites⟩

end SchemaBuilder

end Switchboard.Columns
