import Switchboard.Proofs.Columns.Keyspace

/-! # Batches with the same effect

A table that keeps no tombstones is what its contents are. So two batches that are written one
after the other at one time leave behind the very keyspace that a single batch does, when they
change only such tables and come to the same contents. Purging a second time at the same time
drops nothing.
-/

namespace Switchboard.Columns

namespace Table

/-! ## Tables without a grace period -/

/-- A table without a grace period has a row for every key with cells, and no other. -/
theorem Orderly.row_eq {table : Table} (orderly : table.Orderly) (grace : table.grace = 0)
    (key : String) :
    table.rows[key]? = if table.cells key = ∅ then none else some ⟨table.cells key, none⟩ := by
  cases held : table.rows[key]? with
  | none => rw [cells_of_no_row held, if_pos rfl]
  | some row =>
      have live := orderly.live_of_no_grace grace held
      have undeleted : row.deletedAt = none := by
        simpa using mt (orderly.deleted_iff held).1 live
      rw [cells_of_row held, if_neg live, ← undeleted]

theorem Orderly.eq_of_cells {table table' : Table} (orderly : table.Orderly)
    (orderly' : table'.Orderly) (grace : table.grace = 0) (grace' : table'.grace = 0)
    (tombstones : table.tombstones = table'.tombstones) (cells : table.cells = table'.cells) :
    table = table' := by
  have rows : table.rows = table'.rows := by
    apply Std.ExtTreeMap.ext_getElem?
    intro key
    rw [orderly.row_eq grace, orderly'.row_eq grace', cells]
  cases table
  cases table'
  simp_all

theorem tombstones_bury {table : Table} (grace : table.grace = 0) (key : String) (row : StoredRow)
    (now : Nat) : (table.bury key row now).tombstones = table.tombstones := by
  rw [bury, if_pos grace]

theorem tombstones_apply {table : Table} (grace : table.grace = 0) (now : Nat)
    (mutation : Mutation) : (table.apply now mutation).tombstones = table.tombstones := by
  cases mutation with
  | insert => rfl
  | deleteColumn t key name =>
      rw [apply, deleteColumn]
      split
      · rfl
      · dsimp only
        split
        · exact tombstones_bury grace key _ now
        · rfl
  | deleteRow t key =>
      rw [apply, deleteRow]
      split
      · rfl
      · exact tombstones_bury grace key _ now

/-! ## Purging twice -/

/-- What a purge leaves in the queue, another one at the same time leaves there too. -/
theorem purgeRows_again (grace now : Nat) (queue : List (Nat × String))
    (rows rows' : Std.ExtTreeMap String StoredRow) :
    purgeRows grace now (purgeRows grace now queue rows).1 rows' =
      ((purgeRows grace now queue rows).1, rows') := by
  induction queue generalizing rows with
  | nil => rfl
  | cons entry rest ih =>
      obtain ⟨time, key⟩ := entry
      rw [purgeRows]
      split
      · exact ih _
      · next young => rw [purgeRows, if_neg young]

theorem purge_purge (table : Table) (now : Nat) :
    (table.purge now).purge now = table.purge now := by
  have again := purgeRows_again table.grace now table.tombstones table.rows
    (purgeRows table.grace now table.tombstones table.rows).2
  simp only [purge, again]

/-- Changes between two purges at one time do not bring tombstones back. -/
theorem tombstones_purge_again {table table' : Table} {now : Nat}
    (grace : table'.grace = table.grace) (kept : table'.tombstones = (table.purge now).tombstones) :
    (table'.purge now).tombstones = (table.purge now).tombstones := by
  have again := purgeRows_again table.grace now table.tombstones table.rows table'.rows
  have queue : (table.purge now).tombstones =
      (purgeRows table.grace now table.tombstones table.rows).1 := rfl
  rw [queue] at kept ⊢
  rw [purge, grace, kept, again]

end Table

namespace Keyspace

variable {keyspace : Keyspace} {name : String} {table : Table}

/-! ## What a batch leaves of a table -/

theorem definition_write (keyspace : Keyspace) (now : Nat) (batch : Batch) :
    (keyspace.write now batch).definition = keyspace.definition := by
  have kept (start : Keyspace) :
      (batch.foldl (apply now) start).definition = start.definition := by
    induction batch generalizing start with
    | nil => rfl
    | cons mutation rest ih => exact ih (start.apply now mutation)
  exact kept (keyspace.purge now)

theorem contains_write (keyspace : Keyspace) (now : Nat) (batch : Batch) (name : String) :
    (keyspace.write now batch).tables.contains name = keyspace.tables.contains name := by
  have kept (start : Keyspace) :
      (batch.foldl (apply now) start).tables.contains name = start.tables.contains name := by
    induction batch generalizing start with
    | nil => rfl
    | cons mutation rest ih => exact (ih _).trans (contains_apply start now mutation name)
  exact (kept _).trans (contains_purge keyspace now name)

theorem exists_table_foldl_apply (now : Nat) (batch : Batch)
    (held : keyspace.tables[name]? = some table) :
    ∃ after, (batch.foldl (apply now) keyspace).tables[name]? = some after ∧
      (table.grace = 0 → after.tombstones = table.tombstones) ∧
      ((∀ mutation ∈ batch, mutation.table ≠ name) → after = table) := by
  induction batch generalizing keyspace table with
  | nil => exact ⟨table, held, fun _ => rfl, fun _ => rfl⟩
  | cons mutation rest ih =>
      have step := tables_apply keyspace now mutation name
      by_cases named : mutation.table = name
      · rw [if_pos named, held, Option.map_some] at step
        obtain ⟨after, held', tombstones, -⟩ := ih step
        refine ⟨after, held', fun grace => ?_, fun others => ?_⟩
        · rw [tombstones ((Table.grace_apply table now mutation).trans grace)]
          exact Table.tombstones_apply grace now mutation
        · exact absurd named (others mutation List.mem_cons_self)
      · rw [if_neg named, held] at step
        obtain ⟨after, held', tombstones, untouched⟩ := ih step
        exact ⟨after, held', tombstones, fun others =>
          untouched fun later hlater => others later (List.mem_cons_of_mem mutation hlater)⟩

/-- A table after a batch: purged, and otherwise as it was unless the batch names it. -/
theorem exists_table_write (now : Nat) (batch : Batch)
    (held : keyspace.tables[name]? = some table) :
    ∃ after, (keyspace.write now batch).tables[name]? = some after ∧
      (table.grace = 0 → after.tombstones = (table.purge now).tombstones) ∧
      ((∀ mutation ∈ batch, mutation.table ≠ name) → after = table.purge now) := by
  have purged : (keyspace.purge now).tables[name]? = some (table.purge now) := by
    rw [tables_purge, held, Option.map_some]
  exact exists_table_foldl_apply now batch purged

theorem table_write_of_none (now : Nat) (batch : Batch) (absent : keyspace.tables[name]? = none) :
    (keyspace.write now batch).tables[name]? = none := by
  have kept := contains_write keyspace now batch name
  rw [Std.ExtTreeMap.contains_eq_isSome_getElem?, Std.ExtTreeMap.contains_eq_isSome_getElem?,
    absent] at kept
  exact Option.not_isSome_iff_eq_none.1 (by simp [kept])

/-! ## Two batches for one -/

/-- The batch changes only tables of the keyspace that keep no tombstones. -/
def Graceless (keyspace : Keyspace) (batch : Batch) : Prop :=
  ∀ mutation ∈ batch, keyspace.grace? mutation.table = some 0

theorem Graceless.present {batch : Batch} (graceless : keyspace.Graceless batch) :
    ∀ mutation ∈ batch, keyspace.tables.contains mutation.table :=
  fun mutation hm => contains_of_grace (graceless mutation hm)

/-- A batch that changes only tables without tombstones does not name any other table. -/
theorem Graceless.others {batch : Batch} (graceless : keyspace.Graceless batch)
    (held : keyspace.tables[name]? = some table) (grace : table.grace ≠ 0) :
    ∀ mutation ∈ batch, mutation.table ≠ name := by
  rintro mutation hm rfl
  have zero := graceless mutation hm
  rw [grace?, held, Option.map_some] at zero
  exact grace (Option.some.inj zero)

theorem grace_of_grace? {keyspace' : Keyspace} {table' : Table}
    (same : keyspace'.grace? name = keyspace.grace? name)
    (held : keyspace.tables[name]? = some table) (held' : keyspace'.tables[name]? = some table') :
    table'.grace = table.grace := by
  rw [grace?, grace?, held, held'] at same
  exact Option.some.inj same

/-- Two batches at one time leave behind what one batch does that comes to the same contents. -/
theorem write_write (orderly : keyspace.Orderly) (now : Nat) {batch first second : Batch}
    (graceless : keyspace.Graceless batch) (graceless₁ : keyspace.Graceless first)
    (graceless₂ : keyspace.Graceless second)
    (same : (keyspace.contents.applyAll first).applyAll second =
      keyspace.contents.applyAll batch) :
    (keyspace.write now first).write now second = keyspace.write now batch := by
  obtain ⟨orderly₀, graces₀, contents₀⟩ := write_spec orderly now graceless.present
  obtain ⟨orderly₁, graces₁, contents₁⟩ := write_spec orderly now graceless₁.present
  have graceless₂' : (keyspace.write now first).Graceless second := fun mutation hm =>
    (graces₁ mutation.table).trans (graceless₂ mutation hm)
  obtain ⟨orderly₂, graces₂, contents₂⟩ := write_spec orderly₁ now graceless₂'.present
  have contents : ((keyspace.write now first).write now second).contents =
      (keyspace.write now batch).contents := by rw [contents₂, contents₁, contents₀, same]
  have tables : ((keyspace.write now first).write now second).tables =
      (keyspace.write now batch).tables := by
    apply Std.ExtTreeMap.ext_getElem?
    intro name
    cases held : keyspace.tables[name]? with
    | none =>
        have absent := table_write_of_none now first held
        rw [table_write_of_none now second absent, table_write_of_none now batch held]
    | some table =>
        obtain ⟨after₀, held₀, tombstones₀, untouched₀⟩ := exists_table_write now batch held
        obtain ⟨after₁, held₁, tombstones₁, untouched₁⟩ := exists_table_write now first held
        obtain ⟨after₂, held₂, tombstones₂, untouched₂⟩ := exists_table_write now second held₁
        have grace₀ := grace_of_grace? (graces₀ name) held held₀
        have grace₁ := grace_of_grace? (graces₁ name) held held₁
        have grace₂ := grace_of_grace? (graces₂ name) held₁ held₂
        rw [held₀, held₂]
        refine congrArg some ?_
        by_cases zero : table.grace = 0
        · have zero₁ := grace₁.trans zero
          apply (orderly₂ name after₂ held₂).eq_of_cells (orderly₀ name after₀ held₀)
            (grace₂.trans zero₁) (grace₀.trans zero)
          · rw [tombstones₂ zero₁, tombstones₀ zero]
            exact Table.tombstones_purge_again grace₁ (tombstones₁ zero)
          · rw [← contents_of_table held₂, ← contents_of_table held₀, contents]
        · have untouched : after₁ = table.purge now := untouched₁ (graceless₁.others held zero)
          rw [untouched₀ (graceless.others held zero), untouched₂ (graceless₂.others held zero),
            untouched, Table.purge_purge]
  have definition : ((keyspace.write now first).write now second).definition =
      (keyspace.write now batch).definition := by simp only [definition_write]
  rw [Keyspace.mk.injEq]
  exact ⟨definition, tables⟩

end Keyspace

end Switchboard.Columns
