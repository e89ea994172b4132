import Switchboard.Proofs.Columns.Batches

/-! # Tombstones

A change leaves a table as it is, takes the last cells of a row or leaves a row with cells. A
row that loses its cells gets a tombstone at the end of the queue. The queue keeps entries of
rows that have been written and emptied again since. A purge stops at the first entry that is
in date, and so it drops exactly the emptied rows that are out of date when the queue is
sorted by time and holds the entry of every emptied row.
-/

namespace Switchboard.Columns

/-! ## What a change does to a table -/

namespace Table

theorem tombstones_bury_fresh (table : Table) (key : String) (now : Nat) :
    (table.bury key {} now).tombstones =
      if table.grace = 0 then table.tombstones else table.tombstones ++ [(now, key)] := by
  unfold bury
  split <;> rfl

/-- A row that is buried already stays as it is. -/
theorem bury_of_buried {table : Table} {key : String} {time : Nat} (grace : table.grace ≠ 0)
    (buried : table.rows[key]? = some ⟨∅, some time⟩) (now : Nat) :
    table.bury key ⟨∅, some time⟩ now = table := by
  simp only [bury, if_neg grace, Maps.insert_of_some buried]

inductive Outcome (table : Table) (key : String) (now : Nat) : Table → Prop
  /-- The table is left as it is. -/
  | same : Outcome table key now table
  /-- A row loses its cells. -/
  | emptied (live : table.cells key ≠ ∅) : Outcome table key now (table.bury key {} now)
  /-- A row has cells afterwards. -/
  | live (columns : Cells) (live : columns ≠ ∅) :
    Outcome table key now { table with rows := table.rows.insert key ⟨columns, none⟩ }

/-- In a table in order a row without cells is a tombstone. -/
theorem Orderly.tombstone {table : Table} (orderly : table.Orderly) {key : String} {row : StoredRow}
    (stored : table.rows[key]? = some row) (empty : row.columns = ∅) :
    table.grace ≠ 0 ∧ ∃ time, row = ⟨∅, some time⟩ := by
  obtain ⟨time, htime⟩ := Option.isSome_iff_exists.1 ((orderly.deleted_iff stored).2 empty)
  exact ⟨fun hgrace => orderly.live_of_no_grace hgrace stored empty,
    time, by rw [← empty, ← htime]⟩

theorem Orderly.live {table : Table} (orderly : table.Orderly) {key : String} {row : StoredRow}
    (stored : table.rows[key]? = some row) (live : row.columns ≠ ∅) :
    row = ⟨table.cells key, none⟩ := by
  have hdeleted : row.deletedAt = none := by
    rw [← Option.not_isSome_iff_eq_none, orderly.deleted_iff stored]
    exact live
  rw [cells_of_row stored, ← hdeleted]

/-- Burying a row of a table leaves it as it is or takes away its cells. -/
theorem Orderly.outcome_bury {table : Table} (orderly : table.Orderly) {key : String}
    {row : StoredRow} (stored : table.rows[key]? = some row) (now : Nat) :
    table.Outcome key now (table.bury key { row with columns := ∅ } now) := by
  by_cases hempty : row.columns = ∅
  · obtain ⟨hgrace, time, rfl⟩ := orderly.tombstone stored hempty
    rw [bury_of_buried hgrace stored]
    exact .same
  · rw [orderly.live stored hempty]
    exact .emptied (by rwa [cells_of_row stored])

theorem Orderly.outcome_deleteColumn {table : Table} (orderly : table.Orderly)
    (key name : String) (now : Nat) :
    table.Outcome key now (table.deleteColumn key name now) := by
  cases hrow : table.rows[key]? with
  | none =>
      rw [deleteColumn_of_no_row hrow]
      exact .same
  | some row =>
      by_cases hempty : row.columns.erase name = ∅
      · rw [deleteColumn_of_emptied hrow hempty, hempty]
        exact orderly.outcome_bury hrow now
      · have hlive : row.columns ≠ ∅ := fun h => hempty (by simp [h])
        have hdeleted : row.deletedAt = none := by rw [orderly.live hrow hlive]
        have hkept : ¬ (row.columns.erase name).isEmpty := by
          rwa [Std.ExtTreeMap.isEmpty_iff]
        simp only [Table.deleteColumn, hrow, if_neg hkept, hdeleted]
        exact .live _ hempty

/-- What the changes of a row have in common. -/
theorem Orderly.outcome_apply {table : Table} (orderly : table.Orderly) (now : Nat)
    (mutation : Mutation) : table.Outcome mutation.row now (table.apply now mutation) := by
  cases mutation with
  | insert t key name value => exact .live _ (by simp)
  | deleteColumn t key name => exact orderly.outcome_deleteColumn key name now
  | deleteRow t key =>
      simp only [Table.apply, Table.deleteRow]
      cases hrow : table.rows[key]? with
      | none => exact .same
      | some row => exact orderly.outcome_bury hrow now

section Outcome

variable {table after : Table} {key : String} {now : Nat}

theorem Outcome.rows_of_ne (outcome : table.Outcome key now after) {k : String} (other : key ≠ k) :
    after.rows[k]? = table.rows[k]? := by
  cases outcome with
  | same => rfl
  | emptied => rw [rows_bury, if_neg other]
  | live columns => rw [Maps.getElem?_insert, if_neg other]

theorem Outcome.grace (outcome : table.Outcome key now after) : after.grace = table.grace := by
  cases outcome with
  | same => rfl
  | emptied => exact grace_bury table key {} now
  | live columns => rfl

/-- The queue of tombstones gets an entry for a row that is emptied. -/
theorem Outcome.tombstones (outcome : table.Outcome key now after) :
    after.tombstones = table.tombstones ∨
      after.tombstones = table.tombstones ++ [(now, key)] := by
  cases outcome with
  | same => exact Or.inl rfl
  | emptied =>
      rw [tombstones_bury_fresh]
      split
      · exact Or.inl rfl
      · exact Or.inr rfl
  | live columns => exact Or.inl rfl

/-- A change that finds a row without cells and leaves it so changes nothing. -/
theorem Outcome.eq_of_empty (outcome : table.Outcome key now after) (before : table.cells key = ∅)
    (empty : after.cells key = ∅) : after = table := by
  cases outcome with
  | same => rfl
  | emptied live => exact absurd before live
  | live columns live =>
      rw [cells_of_row Std.ExtTreeMap.getElem?_insert_self] at empty
      exact absurd empty live

theorem Outcome.rows_of_empty (outcome : table.Outcome key now after) {k : String}
    (before : table.cells k = ∅) (empty : after.cells k = ∅) : after.rows[k]? = table.rows[k]? := by
  by_cases hk : key = k
  · rw [outcome.eq_of_empty (hk ▸ before) (hk ▸ empty)]
  · exact outcome.rows_of_ne hk

/-- A row that loses its cells is buried. -/
theorem Outcome.eq_bury (outcome : table.Outcome key now after) {k : String}
    (before : table.cells k ≠ ∅) (empty : after.cells k = ∅) : after = table.bury k {} now := by
  by_cases hk : key = k
  · subst hk
    cases outcome with
    | same => exact absurd empty before
    | emptied => rfl
    | live columns live =>
        rw [cells_of_row Std.ExtTreeMap.getElem?_insert_self] at empty
        exact absurd empty live
  · rw [cells, outcome.rows_of_ne hk] at empty
    exact absurd empty before

end Outcome

/-- A delete gives no row cells, so it changes nothing when its row has none. -/
theorem Orderly.apply_of_empty {table : Table} (orderly : table.Orderly) (now : Nat)
    {mutation : Mutation} (deletes : mutation.isInsert = false)
    (empty : table.cells mutation.row = ∅) : table.apply now mutation = table := by
  refine (orderly.outcome_apply now mutation).eq_of_empty empty ?_
  cases mutation with
  | insert => cases deletes
  | deleteColumn t key name =>
      have hempty : table.cells key = ∅ := empty
      simp [Table.apply, Mutation.row, cells_deleteColumn, hempty]
  | deleteRow t key => simp [Table.apply, Mutation.row, cells_deleteRow]

end Table

/-! ## Purging a queue that is sorted -/

/-- The row has cells, or its grace period is not over. -/
def StoredRow.inDate (row : StoredRow) (grace now : Nat) : Bool :=
  row.deletedAt.all fun time => now - time < grace

namespace Table

section Purge

variable {grace now : Nat} {queue : List (Nat × String)} {rows : Std.ExtTreeMap String StoredRow}

theorem tombstones_purgeRows (sorted : queue.Pairwise (·.1 ≤ ·.1)) :
    (purgeRows grace now queue rows).1 = queue.filter fun entry => now - entry.1 < grace := by
  induction queue generalizing rows with
  | nil => rfl
  | cons entry rest ih =>
      obtain ⟨hfirst, hrest⟩ := List.pairwise_cons.1 sorted
      rw [purgeRows]
      by_cases hover : grace ≤ now - entry.1
      · rw [if_pos hover, List.filter_cons_of_neg (by simpa using hover)]
        exact ih hrest
      · have hall : ∀ later ∈ entry :: rest, now - later.1 < grace := by
          intro later hlater
          rcases List.mem_cons.1 hlater with rfl | hin
          · omega
          · have := hfirst later hin
            omega
        rw [if_neg hover, List.filter_eq_self.2 (by simpa using hall)]

/-- A tombstone drops the row that it was made for, unless the row has been written since. -/
theorem getElem?_drop (rows : Std.ExtTreeMap String StoredRow) (time : Nat) (buried key : String)
    (row : StoredRow) :
    (if rows[buried]?.any fun (stored : StoredRow) => stored.deletedAt == some time then
        rows.erase buried else rows)[key]? = some row ↔
      rows[key]? = some row ∧ ¬ (buried = key ∧ row.deletedAt = some time) := by
  by_cases hk : buried = key
  · subst hk
    split
    · next drops =>
        obtain ⟨stored, hstored, htime⟩ := (Option.any_eq_true _ _).1 drops
        simp only [Maps.getElem?_erase, if_true, hstored, Option.some.injEq, true_and]
        refine ⟨nofun, ?_⟩
        rintro ⟨rfl, hother⟩
        exact absurd (eq_of_beq htime) hother
    · next keeps =>
        refine ⟨fun hrow => ⟨hrow, ?_⟩, And.left⟩
        rintro ⟨-, htime⟩
        exact keeps (by simp [hrow, htime])
  · split <;> simp [Maps.getElem?_erase, hk]

/-- A purge drops the rows that are out of date when the queue is sorted and holds an entry of
every emptied row. -/
theorem rows_purgeRows (sorted : queue.Pairwise (·.1 ≤ ·.1))
    (queued : ∀ {key : String} {row : StoredRow} {time : Nat}, rows[key]? = some row →
      row.deletedAt = some time → (time, key) ∈ queue) (key : String) (row : StoredRow) :
    (purgeRows grace now queue rows).2[key]? = some row ↔
      rows[key]? = some row ∧ row.inDate grace now := by
  induction queue generalizing rows with
  | nil =>
      refine (and_iff_left_of_imp fun hrow => ?_).symm
      cases hdeleted : row.deletedAt with
      | none => simp [StoredRow.inDate, hdeleted]
      | some time => exact absurd (queued hrow hdeleted) List.not_mem_nil
  | cons entry rest ih =>
      obtain ⟨hfirst, hrest⟩ := List.pairwise_cons.1 sorted
      obtain ⟨time, buried⟩ := entry
      rw [purgeRows]
      by_cases hover : grace ≤ now - time
      · -- The row that the first entry was made for is gone, so the rest of the queue has them all.
        have hqueued : ∀ {k : String} {r : StoredRow} {t : Nat},
            (if rows[buried]?.any fun (stored : StoredRow) => stored.deletedAt == some time then
              rows.erase buried else rows)[k]? = some r → r.deletedAt = some t → (t, k) ∈ rest := by
          intro k r t hr ht
          obtain ⟨hstored, hother⟩ := (getElem?_drop rows time buried k r).1 hr
          rcases List.mem_cons.1 (queued hstored ht) with heq | hin
          · cases heq
            exact absurd ⟨rfl, ht⟩ hother
          · exact hin
        rw [if_pos hover]
        refine (ih hrest hqueued).trans ?_
        rw [getElem?_drop, and_assoc]
        refine and_congr_right fun _ => and_iff_right_of_imp ?_
        rintro hdate ⟨-, htime⟩
        rw [StoredRow.inDate, htime, Option.all_some, decide_eq_true_iff] at hdate
        omega
      · rw [if_neg hover]
        refine (and_iff_left_of_imp fun hrow => ?_).symm
        cases hdeleted : row.deletedAt with
        | none => simp [StoredRow.inDate, hdeleted]
        | some deleted =>
            have hle : time ≤ deleted := by
              rcases List.mem_cons.1 (queued hrow hdeleted) with heq | hin
              · cases heq
                exact Nat.le_refl _
              · exact hfirst _ hin
            rw [StoredRow.inDate, hdeleted, Option.all_some, decide_eq_true_iff]
            omega

end Purge

end Table

end Switchboard.Columns
