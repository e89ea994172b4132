import Switchboard.Proofs.Columns.Table

/-! # Contents of a keyspace

A batch that names only tables of the keyspace acts on the contents of the keyspace as
on plain contents. The cluster carries a batch out as a whole or leaves every keyspace
as it is.
-/

namespace Switchboard.Columns

namespace Keyspace

def contents (keyspace : Keyspace) : Contents := fun table =>
  (keyspace.tables[table]?.map Table.cells).getD fun _ => ∅

def grace? (keyspace : Keyspace) (name : String) : Option Nat :=
  keyspace.tables[name]?.map (·.grace)

def Orderly (keyspace : Keyspace) : Prop :=
  ∀ (name : String) (table : Table), keyspace.tables[name]? = some table → table.Orderly

theorem contents_of_table {keyspace : Keyspace} {name : String} {table : Table}
    (h : keyspace.tables[name]? = some table) : keyspace.contents name = table.cells := by
  simp [contents, h]

theorem contains_of_grace {keyspace : Keyspace} {name : String} {grace : Nat}
    (h : keyspace.grace? name = some grace) : keyspace.tables.contains name := by
  obtain ⟨table, htable, -⟩ := Option.map_eq_some_iff.1 h
  rw [Std.ExtTreeMap.contains_eq_isSome_getElem?, htable]
  rfl

/-! ## One change -/

theorem tables_apply (keyspace : Keyspace) (now : Nat) (mutation : Mutation) (name : String) :
    (keyspace.apply now mutation).tables[name]? =
      if mutation.table = name then keyspace.tables[name]?.map (·.apply now mutation)
      else keyspace.tables[name]? := by
  by_cases h : mutation.table = name <;> simp [apply, Std.ExtTreeMap.getElem?_modify, h]

theorem Orderly.apply {keyspace : Keyspace} (h : keyspace.Orderly) (now : Nat)
    (mutation : Mutation) : (keyspace.apply now mutation).Orderly := by
  intro name table htable
  rw [tables_apply] at htable
  by_cases hn : mutation.table = name
  · rw [if_pos hn, Option.map_eq_some_iff] at htable
    obtain ⟨before, hbefore, rfl⟩ := htable
    exact (h name before hbefore).apply now mutation
  · rw [if_neg hn] at htable
    exact h name table htable

theorem contains_apply (keyspace : Keyspace) (now : Nat) (mutation : Mutation) (name : String) :
    (keyspace.apply now mutation).tables.contains name = keyspace.tables.contains name :=
  Std.ExtTreeMap.contains_modify

theorem grace?_apply (keyspace : Keyspace) (now : Nat) (mutation : Mutation) (name : String) :
    (keyspace.apply now mutation).grace? name = keyspace.grace? name := by
  rw [grace?, tables_apply, grace?]
  split
  · rw [Option.map_map]
    congr 1
    funext table
    exact Table.grace_apply table now mutation
  · rfl

theorem contents_apply {keyspace : Keyspace} (now : Nat) {mutation : Mutation}
    (present : keyspace.tables.contains mutation.table) :
    (keyspace.apply now mutation).contents = keyspace.contents.apply mutation := by
  funext name
  by_cases hn : mutation.table = name
  · subst hn
    rw [Std.ExtTreeMap.contains_eq_isSome_getElem?, Option.isSome_iff_exists] at present
    obtain ⟨table, htable⟩ := present
    have hafter : (keyspace.apply now mutation).tables[mutation.table]? =
        some (table.apply now mutation) := by
      rw [tables_apply, if_pos rfl, htable, Option.map_some]
    rw [contents_of_table hafter]
    exact Table.cells_apply table now mutation keyspace.contents (contents_of_table htable)
  · rw [Contents.apply_of_table_ne _ hn, contents, tables_apply, if_neg hn, contents]

/-! ## A batch -/

theorem tables_purge (keyspace : Keyspace) (now : Nat) (name : String) :
    (keyspace.purge now).tables[name]? = keyspace.tables[name]?.map (·.purge now) := by
  simp [purge, Std.ExtTreeMap.getElem?_map]

theorem Orderly.purge {keyspace : Keyspace} (h : keyspace.Orderly) (now : Nat) :
    (keyspace.purge now).Orderly := by
  intro name table htable
  rw [tables_purge, Option.map_eq_some_iff] at htable
  obtain ⟨before, hbefore, rfl⟩ := htable
  exact (h name before hbefore).purge now

theorem contains_purge (keyspace : Keyspace) (now : Nat) (name : String) :
    (keyspace.purge now).tables.contains name = keyspace.tables.contains name := by
  rw [Std.ExtTreeMap.contains_eq_isSome_getElem?, tables_purge, Option.isSome_map,
    Std.ExtTreeMap.contains_eq_isSome_getElem?]

theorem grace?_purge (keyspace : Keyspace) (now : Nat) (name : String) :
    (keyspace.purge now).grace? name = keyspace.grace? name := by
  rw [grace?, tables_purge, Option.map_map]
  rfl

theorem contents_purge {keyspace : Keyspace} (h : keyspace.Orderly) (now : Nat) :
    (keyspace.purge now).contents = keyspace.contents := by
  funext name
  rw [contents, tables_purge, contents]
  cases htable : keyspace.tables[name]? with
  | none => rfl
  | some table => exact Table.cells_purge (h name table htable) now

theorem foldl_apply_spec (now : Nat) (batch : Batch) {keyspace : Keyspace}
    (orderly : keyspace.Orderly)
    (present : ∀ mutation ∈ batch, keyspace.tables.contains mutation.table) :
    (batch.foldl (apply now) keyspace).Orderly ∧
      (∀ name, (batch.foldl (apply now) keyspace).grace? name = keyspace.grace? name) ∧
      (batch.foldl (apply now) keyspace).contents = keyspace.contents.applyAll batch := by
  induction batch generalizing keyspace with
  | nil => exact ⟨orderly, fun _ => rfl, rfl⟩
  | cons mutation rest ih =>
      have hrest : ∀ m ∈ rest, (keyspace.apply now mutation).tables.contains m.table := by
        intro m hm
        rw [contains_apply]
        exact present m (List.mem_cons_of_mem mutation hm)
      obtain ⟨horderly, htables, hcontents⟩ := ih (orderly.apply now mutation) hrest
      have hgrace (name : String) := (htables name).trans (grace?_apply keyspace now mutation name)
      refine ⟨horderly, hgrace, ?_⟩
      rw [List.foldl_cons, hcontents, contents_apply now (present mutation List.mem_cons_self)]
      rfl

theorem missingTable?_eq_none_iff {keyspace : Keyspace} {batch : Batch} :
    keyspace.missingTable? batch = none ↔
      ∀ mutation ∈ batch, keyspace.tables.contains mutation.table := by
  simp [missingTable?, List.find?_eq_none]

/-- Writing a batch keeps the tables and their order and acts on plain contents. -/
theorem write_spec {keyspace : Keyspace} (orderly : keyspace.Orderly) (now : Nat) {batch : Batch}
    (present : ∀ mutation ∈ batch, keyspace.tables.contains mutation.table) :
    (keyspace.write now batch).Orderly ∧
      (∀ name, (keyspace.write now batch).grace? name = keyspace.grace? name) ∧
      (keyspace.write now batch).contents = keyspace.contents.applyAll batch := by
  have hpresent : ∀ mutation ∈ batch, (keyspace.purge now).tables.contains mutation.table := by
    intro mutation hm
    rw [contains_purge]
    exact present mutation hm
  obtain ⟨horderly, htables, hcontents⟩ := foldl_apply_spec now batch (orderly.purge now) hpresent
  refine ⟨horderly, fun name => (htables name).trans (grace?_purge keyspace now name), ?_⟩
  rw [write, hcontents, contents_purge orderly]

end Keyspace

namespace Cluster

@[simp] theorem keyspaces_noteLevel (cluster : Cluster) (level : Consistency) :
    (cluster.noteLevel level).keyspaces = cluster.keyspaces := by
  unfold noteLevel
  split <;> rfl

@[simp] theorem failReads_noteLevel (cluster : Cluster) (level : Consistency) :
    (cluster.noteLevel level).failReads = cluster.failReads := by
  unfold noteLevel
  split <;> rfl

@[simp] theorem failWrites_noteLevel (cluster : Cluster) (level : Consistency) :
    (cluster.noteLevel level).failWrites = cluster.failWrites := by
  unfold noteLevel
  split <;> rfl

@[simp] theorem now_noteLevel (cluster : Cluster) (level : Consistency) :
    (cluster.noteLevel level).clock = cluster.clock := by
  unfold noteLevel
  split <;> rfl

/-- A batch on present tables is carried out unless writes are made to fail. -/
theorem execute_of_present {cluster : Cluster} {name : String} {keyspace : Keyspace}
    (stored : cluster.keyspaces[name]? = some keyspace) {batch : Batch}
    (present : ∀ mutation ∈ batch, keyspace.tables.contains mutation.table)
    (level : Consistency) :
    execute name batch level cluster =
      if cluster.failWrites then
        (.error (.unavailable "writes disabled"), cluster.noteLevel level)
      else
        (.ok (), { cluster.noteLevel level with
          keyspaces := cluster.keyspaces.insert name (keyspace.write cluster.clock batch) }) := by
  have hfound : keyspace.missingTable? batch = none :=
    Keyspace.missingTable?_eq_none_iff.2 present
  by_cases hf : cluster.failWrites
  · simp [execute, written, hf]
  · simp [execute, written, hf, Cluster.keyspace, stored, hfound]

/-- A batch that is refused leaves nothing but the record of its level. -/
theorem eq_of_execute_error {cluster cluster' : Cluster} {name : String} {batch : Batch}
    {level : Consistency} {e : ClusterError}
    (h : execute name batch level cluster = (.error e, cluster')) :
    cluster' = cluster.noteLevel level := by
  unfold execute at h
  cases hw : cluster.written name batch with
  | error reason =>
      simp only [hw, Prod.mk.injEq] at h
      exact h.2.symm
  | ok keyspaces => simp [hw] at h

theorem noteLevel_eq (cluster : Cluster) (level : Consistency) :
    cluster.noteLevel level = { cluster with levels := (cluster.noteLevel level).levels } := by
  unfold noteLevel
  split <;> rfl

theorem row_of_table {cluster : Cluster} {name table : String} {keyspace : Keyspace}
    {stored : Table} (hk : cluster.keyspaces[name]? = some keyspace)
    (ht : keyspace.tables[table]? = some stored) (key : String) :
    cluster.row name table key =
      if cluster.failReads then .error (.unavailable "reads disabled")
      else .ok (keyspace.contents table key).columns := by
  rw [Keyspace.contents_of_table ht, ← Table.columns_eq]
  by_cases hf : cluster.failReads
  · simp [row, readable, hf, Except.map]
  · simp [row, readable, hf, Cluster.keyspace, hk, ht, Except.map]

end Cluster

end Switchboard.Columns
