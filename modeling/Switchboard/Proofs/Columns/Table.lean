import Switchboard.Proofs.Columns.Contents

/-! # Contents of one table

Each change of a table acts on its contents as on a plain map. Tombstones are
bookkeeping on rows without cells: in a table whose rows are in order they are
exactly the emptied rows, so a purge drops no cell.
-/

namespace Switchboard.Columns.Table

def cells (table : Table) (key : String) : Cells :=
  (table.rows[key]?.map (·.columns)).getD ∅

/-- A row is a tombstone exactly when it has no cells, and a table without a grace period keeps
no tombstones. -/
structure Orderly (table : Table) : Prop where
  deleted_iff : ∀ {key : String} {row : StoredRow}, table.rows[key]? = some row →
    (row.deletedAt.isSome ↔ row.columns = ∅)
  live_of_no_grace : table.grace = 0 → ∀ {key : String} {row : StoredRow},
    table.rows[key]? = some row → row.columns ≠ ∅

theorem cells_of_row {table : Table} {key : String} {row : StoredRow}
    (h : table.rows[key]? = some row) : table.cells key = row.columns := by
  simp [cells, h]

theorem cells_of_no_row {table : Table} {key : String} (h : table.rows[key]? = none) :
    table.cells key = ∅ := by
  simp [cells, h]

/-! ## Single changes -/

@[simp] theorem grace_bury (table : Table) (key : String) (row : StoredRow) (now : Nat) :
    (table.bury key row now).grace = table.grace := by
  unfold bury
  split
  · rfl
  · split <;> rfl

@[simp] theorem grace_deleteColumn (table : Table) (key name : String) (now : Nat) :
    (table.deleteColumn key name now).grace = table.grace := by
  unfold deleteColumn
  split
  · rfl
  · dsimp only
    split
    · exact grace_bury table key _ now
    · rfl

@[simp] theorem grace_deleteRow (table : Table) (key : String) (now : Nat) :
    (table.deleteRow key now).grace = table.grace := by
  unfold deleteRow
  split
  · rfl
  · exact grace_bury table key _ now

theorem grace_apply (table : Table) (now : Nat) (mutation : Mutation) :
    (table.apply now mutation).grace = table.grace := by
  cases mutation with
  | insert t key name value => rfl
  | deleteColumn t key name => exact grace_deleteColumn table key name now
  | deleteRow t key => exact grace_deleteRow table key now

theorem rows_insert (table : Table) (key name value k : String) :
    (table.insert key name value).rows[k]? =
      if key = k then some ⟨(table.cells key).insert name value, none⟩ else table.rows[k]? := by
  have hcells : ((table.rows[key]?).getD {}).columns = table.cells key := by
    cases h : table.rows[key]? with
    | none => simp [cells, h]
    | some row => simp [cells, h]
  simp [insert, Maps.getElem?_insert, hcells]

theorem cells_insert (table : Table) (key name value k : String) :
    (table.insert key name value).cells k =
      if key = k then (table.cells key).insert name value else table.cells k := by
  rw [cells, rows_insert]
  by_cases hk : key = k
  · simp [hk]
  · simp [hk, cells]

theorem Orderly.insert {table : Table} (h : table.Orderly) (key name value : String) :
    (table.insert key name value).Orderly where
  deleted_iff := by
    intro k row hrow
    rw [rows_insert] at hrow
    by_cases hk : key = k
    · simp only [hk, if_true, Option.some.injEq] at hrow
      subst hrow
      simp
    · rw [if_neg hk] at hrow
      exact h.deleted_iff hrow
  live_of_no_grace := by
    intro hg k row hrow
    rw [rows_insert] at hrow
    by_cases hk : key = k
    · simp only [hk, if_true, Option.some.injEq] at hrow
      subst hrow
      simp
    · rw [if_neg hk] at hrow
      exact h.live_of_no_grace hg hrow

/-- Burying a row without cells leaves its key without cells and every other row as it was. -/
theorem rows_bury (table : Table) (key : String) (row : StoredRow) (now : Nat) (k : String) :
    (table.bury key row now).rows[k]? =
      if key = k then
        if table.grace = 0 then none
        else some ⟨row.columns, some (row.deletedAt.getD now)⟩
      else table.rows[k]? := by
  unfold bury
  by_cases hg : table.grace = 0
  · simp [hg, Maps.getElem?_erase]
  · cases hd : row.deletedAt with
    | none => simp [hg, Maps.getElem?_insert]
    | some time =>
        have hrow : row = ⟨row.columns, some time⟩ := by rw [← hd]
        simp [hg, Maps.getElem?_insert, ← hrow]

theorem cells_bury (table : Table) (key : String) {row : StoredRow} (empty : row.columns = ∅)
    (now : Nat) (k : String) :
    (table.bury key row now).cells k = if key = k then ∅ else table.cells k := by
  rw [cells, rows_bury]
  by_cases hk : key = k
  · by_cases hg : table.grace = 0 <;> simp [hk, hg, empty]
  · simp [hk, cells]

theorem Orderly.bury {table : Table} (h : table.Orderly) (key : String) {row : StoredRow}
    (empty : row.columns = ∅) (now : Nat) : (table.bury key row now).Orderly where
  deleted_iff := by
    intro k stored hstored
    rw [rows_bury] at hstored
    by_cases hk : key = k
    · by_cases hg : table.grace = 0
      · simp [hk, hg] at hstored
      · simp only [hk, hg, if_true, if_false, Option.some.injEq] at hstored
        subst hstored
        simp [empty]
    · rw [if_neg hk] at hstored
      exact h.deleted_iff hstored
  live_of_no_grace := by
    intro hg k stored hstored
    rw [grace_bury] at hg
    rw [rows_bury] at hstored
    by_cases hk : key = k
    · simp [hk, hg] at hstored
    · rw [if_neg hk] at hstored
      exact h.live_of_no_grace hg hstored

theorem deleteColumn_of_no_row {table : Table} {key : String} (h : table.rows[key]? = none)
    (name : String) (now : Nat) : table.deleteColumn key name now = table := by
  simp [deleteColumn, h]

theorem deleteColumn_of_emptied {table : Table} {key name : String} {row : StoredRow}
    (h : table.rows[key]? = some row) (empty : row.columns.erase name = ∅) (now : Nat) :
    table.deleteColumn key name now =
      table.bury key { row with columns := row.columns.erase name } now := by
  simp [deleteColumn, h, empty]

theorem rows_deleteColumn_of_kept {table : Table} {key name : String} {row : StoredRow}
    (h : table.rows[key]? = some row) (kept : row.columns.erase name ≠ ∅) (now : Nat) (k : String) :
    (table.deleteColumn key name now).rows[k]? =
      if key = k then some { row with columns := row.columns.erase name } else table.rows[k]? := by
  have nonempty : ¬ (row.columns.erase name).isEmpty := by
    rw [Std.ExtTreeMap.isEmpty_iff]
    exact kept
  simp only [deleteColumn, h, if_neg nonempty]
  rw [Maps.getElem?_insert]

theorem cells_deleteColumn (table : Table) (key name : String) (now : Nat) (k : String) :
    (table.deleteColumn key name now).cells k =
      if key = k then (table.cells key).erase name else table.cells k := by
  cases hrow : table.rows[key]? with
  | none =>
      rw [deleteColumn_of_no_row hrow, cells_of_no_row hrow]
      by_cases hk : key = k
      · subst hk
        simp [cells_of_no_row hrow]
      · rw [if_neg hk]
  | some row =>
      rw [cells_of_row hrow]
      by_cases empty : row.columns.erase name = ∅
      · rw [deleteColumn_of_emptied hrow empty, cells_bury table key empty, empty]
      · rw [cells, rows_deleteColumn_of_kept hrow empty]
        by_cases hk : key = k
        · simp [hk]
        · simp [hk, cells]

theorem Orderly.deleteColumn {table : Table} (h : table.Orderly) (key name : String) (now : Nat) :
    (table.deleteColumn key name now).Orderly := by
  cases hrow : table.rows[key]? with
  | none =>
      rw [deleteColumn_of_no_row hrow]
      exact h
  | some row =>
      by_cases empty : row.columns.erase name = ∅
      · rw [deleteColumn_of_emptied hrow empty]
        exact h.bury key empty now
      · -- The row keeps a cell, so it had one before and is no tombstone.
        have live : row.columns ≠ ∅ := fun e => empty (by simp [e])
        have kept : ¬ row.deletedAt.isSome := fun hd => live ((h.deleted_iff hrow).1 hd)
        constructor
        · intro k stored hstored
          rw [rows_deleteColumn_of_kept hrow empty] at hstored
          by_cases hk : key = k
          · rw [if_pos hk, Option.some.injEq] at hstored
            subst hstored
            exact ⟨fun hd => absurd hd kept, fun e => absurd e empty⟩
          · rw [if_neg hk] at hstored
            exact h.deleted_iff hstored
        · intro hg k stored hstored
          rw [grace_deleteColumn] at hg
          rw [rows_deleteColumn_of_kept hrow empty] at hstored
          by_cases hk : key = k
          · rw [if_pos hk, Option.some.injEq] at hstored
            subst hstored
            exact empty
          · rw [if_neg hk] at hstored
            exact h.live_of_no_grace hg hstored

theorem cells_deleteRow (table : Table) (key : String) (now : Nat) (k : String) :
    (table.deleteRow key now).cells k = if key = k then ∅ else table.cells k := by
  unfold deleteRow
  cases hrow : table.rows[key]? with
  | none =>
      by_cases hk : key = k
      · subst hk
        simp [cells_of_no_row hrow]
      · simp [hk]
  | some row => exact cells_bury table key rfl now k

theorem Orderly.deleteRow {table : Table} (h : table.Orderly) (key : String) (now : Nat) :
    (table.deleteRow key now).Orderly := by
  unfold Table.deleteRow
  cases table.rows[key]? with
  | none => exact h
  | some row => exact h.bury key rfl now

theorem Orderly.apply {table : Table} (h : table.Orderly) (now : Nat) (mutation : Mutation) :
    (table.apply now mutation).Orderly := by
  cases mutation with
  | insert t key name value => exact h.insert key name value
  | deleteColumn t key name => exact h.deleteColumn key name now
  | deleteRow t key => exact h.deleteRow key now

/-- A change of a table acts on its cells as on plain contents. -/
theorem cells_apply (table : Table) (now : Nat) (mutation : Mutation) (contents : Contents)
    (same : contents mutation.table = table.cells) :
    (table.apply now mutation).cells = contents.apply mutation mutation.table := by
  funext k
  cases mutation with
  | insert t key name value =>
      have hs : contents t = table.cells := same
      simp [apply, cells_insert, Contents.apply, Contents.set, Mutation.table, hs]
  | deleteColumn t key name =>
      have hs : contents t = table.cells := same
      simp [apply, cells_deleteColumn, Contents.apply, Contents.set, Mutation.table, hs]
  | deleteRow t key =>
      have hs : contents t = table.cells := same
      simp [apply, cells_deleteRow, Contents.apply, Contents.set, Mutation.table, hs]

/-! ## Purging -/

/-- A purge keeps every row that has cells, and drops nothing else than rows. -/
theorem purgeRows_spec (grace now : Nat) (queue : List (Nat × String))
    (rows : Std.ExtTreeMap String StoredRow)
    (orderly : ∀ (key : String) (row : StoredRow), rows[key]? = some row →
      row.deletedAt.isSome → row.columns = ∅) (key : String) :
    (purgeRows grace now queue rows).2[key]? = rows[key]? ∨
      ((purgeRows grace now queue rows).2[key]? = none ∧
        ∃ row : StoredRow, rows[key]? = some row ∧ row.columns = ∅) := by
  induction queue generalizing rows with
  | nil => exact Or.inl rfl
  | cons entry rest ih =>
      obtain ⟨time, buried⟩ := entry
      rw [purgeRows]
      by_cases hg : grace ≤ now - time
      · rw [if_pos hg]
        dsimp only
        by_cases hb : rows[buried]?.any (·.deletedAt == some time)
        · rw [if_pos hb]
          have horderly : ∀ (k : String) (row : StoredRow), (rows.erase buried)[k]? = some row →
              row.deletedAt.isSome → row.columns = ∅ := by
            intro k row hrow
            by_cases hk : buried = k
            · simp [hk] at hrow
            · rw [Maps.getElem?_erase, if_neg hk] at hrow
              exact orderly k row hrow
          have hrec := ih (rows.erase buried) horderly
          by_cases hk : buried = key
          · subst hk
            obtain ⟨row, hrow, hd⟩ := (Option.any_eq_true _ _).1 hb
            have empty := orderly buried row hrow (by simp [eq_of_beq hd])
            refine Or.inr ⟨?_, row, hrow, empty⟩
            rcases hrec with h | h
            · simpa using h
            · exact h.1
          · simpa [Maps.getElem?_erase, hk] using hrec
        · rw [if_neg hb]
          exact ih rows orderly
      · rw [if_neg hg]
        exact Or.inl rfl

theorem rows_purge_spec {table : Table} (h : table.Orderly) (now : Nat) (key : String) :
    (table.purge now).rows[key]? = table.rows[key]? ∨
      ((table.purge now).rows[key]? = none ∧
        ∃ row : StoredRow, table.rows[key]? = some row ∧ row.columns = ∅) :=
  purgeRows_spec table.grace now table.tombstones table.rows
    (fun _ _ hrow hd => (h.deleted_iff hrow).1 hd) key

theorem cells_purge {table : Table} (h : table.Orderly) (now : Nat) :
    (table.purge now).cells = table.cells := by
  funext key
  rcases rows_purge_spec h now key with same | ⟨gone, row, hrow, empty⟩
  · rw [cells, same, cells]
  · rw [cells_of_no_row gone, cells_of_row hrow, empty]

theorem Orderly.purge {table : Table} (h : table.Orderly) (now : Nat) :
    (table.purge now).Orderly := by
  have kept : ∀ {key : String} {row : StoredRow},
      (table.purge now).rows[key]? = some row → table.rows[key]? = some row := by
    intro key row hrow
    rcases rows_purge_spec h now key with same | ⟨gone, _⟩
    · rw [← same, hrow]
    · rw [gone] at hrow
      cases hrow
  constructor
  · exact fun hrow => h.deleted_iff (kept hrow)
  · exact fun hg _ _ hrow => h.live_of_no_grace hg (kept hrow)

/-- A table without rows. -/
theorem Orderly.of_no_rows {table : Table} (h : table.rows = ∅) : table.Orderly := by
  constructor
  · intro key row hrow
    simp [h] at hrow
  · intro _ key row hrow
    simp [h] at hrow

theorem columns_eq (table : Table) (key : String) :
    table.columns key = (table.cells key).columns := by
  unfold Table.columns cells
  cases table.rows[key]? with
  | none => simp [Cells.columns]
  | some row => rfl

end Switchboard.Columns.Table
