import Mathlib.Data.List.Sort
import Switchboard.Directory.Replicated.Basic
import Switchboard.Proofs.Columns.Keyspace
import Switchboard.Proofs.Directory.Replicated.Paging

/-! # Reading and writing the tables of a directory

A directory is ready when its keyspace holds every table of the layout, each in order.
A read of a ready directory shows its contents unless reads are made to fail, and a
planned batch acts on the contents as on a plain map unless writes are made to fail.
-/

namespace Switchboard

namespace Replicated

open Switchboard.Columns

@[simp] theorem ok_bind {ε α β : Type} (a : α) (f : α → Except ε β) :
    (Except.ok a >>= f) = f a := rfl

def tableNames : List String := Layout.tables.map (·.name)

/-- The keyspace holds every table of the layout with its grace period, and its tables are in
order. -/
structure Ready (r : Replicated) (keyspace : Keyspace) : Prop where
  stored : r.cluster.keyspaces[r.keyspace]? = some keyspace
  orderly : keyspace.Orderly
  graces : ∀ table ∈ Layout.tables,
    keyspace.grace? table.name = some (table.grace.nanos)

def contents (r : Replicated) : Contents :=
  (r.cluster.keyspaces[r.keyspace]?.map Keyspace.contents).getD fun _ _ => ∅

/-! ## One table -/

section OneTable

def rowsOf (table : Table) (projection : Projection) : List Row :=
  table.rows.toList.map fun (key, row) => ⟨key, row.select projection⟩

theorem rowsOf_inOrder (table : Table) (projection : Projection) :
    Paging.InOrder (rowsOf table projection) := by
  rw [Paging.InOrder, rowsOf, List.pairwise_map]
  exact Std.ExtTreeMap.ordered_keys_toList.imp fun h => compare_lt_iff_lt.1 h

theorem scan_eq_pageOf (table : Table) (projection : Projection) (start : String) :
    table.scan ⟨start, some Paging.pageSize⟩ projection =
      Paging.pageOf (rowsOf table projection) start := by
  rw [Paging.pageOf, rowsOf, List.filter_map, ← List.map_take]
  rfl

theorem liveKeys_rowsOf_sorted (table : Table) (projection : Projection) :
    (Paging.liveKeys (rowsOf table projection)).Pairwise (· < ·) := by
  rw [Paging.liveKeys, List.pairwise_map]
  exact (rowsOf_inOrder table projection).filter _

/-- A row is live when the projection finds a cell in it. -/
theorem mem_liveKeys_rowsOf (table : Table) (projection : Projection) (key : String) :
    key ∈ Paging.liveKeys (rowsOf table projection) ↔
      (table.cells key).selected projection ≠ [] := by
  simp only [Paging.liveKeys, rowsOf, List.mem_map, List.mem_filter]
  constructor
  · rintro ⟨_, ⟨⟨⟨k, row⟩, hmem, rfl⟩, live⟩, rfl⟩
    rw [Std.ExtTreeMap.mem_toList_iff_getElem?_eq_some] at hmem
    rw [Table.cells_of_row hmem, ← StoredRow.select_eq]
    simpa using live
  · intro live
    cases hrow : table.rows[key]? with
    | none =>
        rw [Table.cells_of_no_row hrow] at live
        exact absurd (Cells.selected_empty projection) live
    | some row =>
        rw [Table.cells_of_row hrow, ← StoredRow.select_eq] at live
        refine ⟨⟨key, row.select projection⟩, ⟨⟨(key, row), ?_, rfl⟩, ?_⟩, rfl⟩
        · exact Std.ExtTreeMap.mem_toList_iff_getElem?_eq_some.2 hrow
        · simpa using live

variable {r : Replicated} {keyspace : Keyspace} {name : String} {table : Table}

theorem contents_of_stored (stored : r.cluster.keyspaces[r.keyspace]? = some keyspace) :
    r.contents = keyspace.contents := by
  simp [contents, stored]

/-- A read shows the contents of its table unless reads are made to fail. -/
theorem fetch_of_table (stored : r.cluster.keyspaces[r.keyspace]? = some keyspace)
    (held : keyspace.tables[name]? = some table) (key : String) :
    r.fetch name key =
      if r.cluster.failReads then
        .error (failure s!"Could not read [{name}/{key}]" (.unavailable "reads disabled"))
      else .ok (r.contents name key).columns := by
  rw [fetch, Cluster.row_of_table stored held, contents_of_stored stored]
  split <;> rfl

/-- A listing of row keys names the rows in which the projection finds a column. -/
theorem rowKeys_of_table (stored : r.cluster.keyspaces[r.keyspace]? = some keyspace)
    (held : keyspace.tables[name]? = some table) (reads : r.cluster.failReads = false)
    (projection : Projection) :
    r.rowKeys name projection = Paging.liveKeys (rowsOf table projection) := by
  apply Paging.keysFrom_start _ (rowsOf_inOrder table projection)
  · rw [Cluster.rowCount, stored]
    simp [held, rowsOf]
  · intro start
    simp [Cluster.scan, Cluster.readable, reads, Cluster.keyspace, stored, held,
      Except.map, scan_eq_pageOf]

end OneTable

/-! ## Reading -/

section Reading

variable {r : Replicated} {keyspace : Keyspace}

theorem Ready.present (ready : r.Ready keyspace) {name : String} (h : name ∈ tableNames) :
    keyspace.tables.contains name := by
  obtain ⟨table, hmem, rfl⟩ := List.mem_map.1 h
  exact Keyspace.contains_of_grace (ready.graces table hmem)

theorem Ready.contents_eq (ready : r.Ready keyspace) : r.contents = keyspace.contents :=
  contents_of_stored ready.stored

theorem Ready.exists_table (ready : r.Ready keyspace) {name : String} (h : name ∈ tableNames) :
    ∃ table, keyspace.tables[name]? = some table := by
  have present := ready.present h
  rwa [Std.ExtTreeMap.contains_eq_isSome_getElem?, Option.isSome_iff_exists] at present

/-- A read shows the contents unless reads are made to fail. -/
theorem Ready.fetch_eq (ready : r.Ready keyspace) {table : String} (h : table ∈ tableNames)
    (key : String) :
    r.fetch table key =
      if r.cluster.failReads then
        .error (failure s!"Could not read [{table}/{key}]" (.unavailable "reads disabled"))
      else .ok (r.contents table key).columns := by
  obtain ⟨stored, held⟩ := ready.exists_table h
  exact fetch_of_table ready.stored held key

theorem Ready.fetch_of_reads (ready : r.Ready keyspace) {table : String} (h : table ∈ tableNames)
    (reads : r.cluster.failReads = false) (key : String) :
    r.fetch table key = .ok (r.contents table key).columns := by
  rw [ready.fetch_eq h, reads]
  rfl

theorem Ready.fetch_of_failReads (ready : r.Ready keyspace) {table : String}
    (h : table ∈ tableNames) (fails : r.cluster.failReads = true) (key : String) :
    ∃ e, r.fetch table key = .error e := by
  rw [ready.fetch_eq h, fails]
  exact ⟨_, rfl⟩

/-- A look-up that takes a failing read for an absent row. -/
theorem Ready.columns_eq (ready : r.Ready keyspace) {table : String} (h : table ∈ tableNames)
    (reads : r.cluster.failReads = false) (key : String) :
    r.columns table key = (r.contents table key).columns := by
  simp [columns, ready.fetch_eq h, reads]

theorem Ready.columnNames_eq (ready : r.Ready keyspace) {table : String} (h : table ∈ tableNames)
    (reads : r.cluster.failReads = false) (key : String) :
    r.columnNames table key = (r.contents table key).keys := by
  rw [columnNames, ready.columns_eq h reads, Cells.columns, List.map_map,
    ← Std.ExtTreeMap.map_fst_toList_eq_keys]
  rfl

theorem Ready.nodup_columnNames (ready : r.Ready keyspace) {table : String}
    (h : table ∈ tableNames) (reads : r.cluster.failReads = false) (key : String) :
    (r.columnNames table key).Nodup := by
  rw [ready.columnNames_eq h reads]
  exact Std.ExtTreeMap.nodup_keys

theorem Ready.mem_columnNames (ready : r.Ready keyspace) {table : String} (h : table ∈ tableNames)
    (reads : r.cluster.failReads = false) (key name : String) :
    name ∈ r.columnNames table key ↔ ∃ value, (r.contents table key)[name]? = some value := by
  rw [ready.columnNames_eq h reads, Std.ExtTreeMap.mem_keys,
    Std.ExtTreeMap.mem_iff_isSome_getElem?, Option.isSome_iff_exists]

theorem Ready.rowKeys_sorted (ready : r.Ready keyspace) {name : String} (h : name ∈ tableNames)
    (reads : r.cluster.failReads = false) (projection : Projection) :
    (r.rowKeys name projection).Pairwise (· < ·) := by
  obtain ⟨table, stored⟩ := ready.exists_table h
  rw [rowKeys_of_table ready.stored stored reads]
  exact liveKeys_rowsOf_sorted table projection

theorem Ready.mem_rowKeys (ready : r.Ready keyspace) {name : String} (h : name ∈ tableNames)
    (reads : r.cluster.failReads = false) (projection : Projection) (key : String) :
    key ∈ r.rowKeys name projection ↔ (r.contents name key).selected projection ≠ [] := by
  obtain ⟨table, stored⟩ := ready.exists_table h
  rw [rowKeys_of_table ready.stored stored reads, ready.contents_eq,
    Keyspace.contents_of_table stored]
  exact mem_liveKeys_rowsOf table projection key

end Reading

/-! ## Carrying plans out -/

def Plans {α : Type} (plan : Replicated → Except DirectoryError (Plan α)) (r : Replicated)
    (batch : Batch) : Prop :=
  ∃ context answer, plan r = .ok (.write batch context answer)

/-- The directory after a step stands on the same keyspace with the same switches. -/
structure SameSwitches (r r' : Replicated) : Prop where
  keyspace : r'.keyspace = r.keyspace
  failReads : r'.cluster.failReads = r.cluster.failReads
  failWrites : r'.cluster.failWrites = r.cluster.failWrites

section Writing

variable {α : Type} {r : Replicated} {keyspace : Keyspace}
  {plan : Replicated → Except DirectoryError (Plan α)}

/-- A plan that begins with a read comes to a batch only when reads succeed. -/
theorem Ready.reads_of_plans (ready : r.Ready keyspace) {table key : String}
    (h : table ∈ tableNames)
    (first : ∀ e, r.fetch table key = .error e → plan r = .error e) {batch : Batch}
    (planned : Plans plan r batch) : r.cluster.failReads = false := by
  cases fails : r.cluster.failReads with
  | false => rfl
  | true =>
      obtain ⟨context, answer, hp⟩ := planned
      obtain ⟨e, he⟩ := ready.fetch_of_failReads h fails key
      rw [first e he] at hp
      cases hp

@[simp] theorem contents_noteRead (r : Replicated) : r.noteRead.contents = r.contents := by
  simp [contents, noteRead]

theorem Ready.noteRead (ready : r.Ready keyspace) : r.noteRead.Ready keyspace :=
  ⟨by simp [Replicated.noteRead, ready.stored], ready.orderly, ready.graces⟩

theorem sameSwitches_noteRead (r : Replicated) : r.SameSwitches r.noteRead :=
  ⟨rfl, by simp [Replicated.noteRead], by simp [Replicated.noteRead]⟩

theorem carryOut_of_error {e : DirectoryError} (h : plan r = .error e) :
    carryOut plan r = (.error e, r.noteRead) := by
  simp [carryOut, h]

theorem carryOut_of_keep {answer : α} (h : plan r = .ok (.keep answer)) :
    carryOut plan r = (.ok answer, r.noteRead) := by
  simp [carryOut, h]

/-- A batch that cannot be written is refused, and nothing else happens. -/
theorem Ready.carryOut_of_failWrites (ready : r.Ready keyspace) {batch : Batch} {context : String}
    {answer : α} (h : plan r = .ok (.write batch context answer))
    (named : Contents.Within tableNames batch)
    (fails : r.cluster.failWrites = true) :
    carryOut plan r = (.error (failure context (.unavailable "writes disabled")), r.noteRead) := by
  have present : ∀ mutation ∈ batch, keyspace.tables.contains mutation.table :=
    fun mutation hm => ready.present (named mutation hm)
  simp [carryOut, h, Cluster.execute_of_present ready.stored present, fails,
    Replicated.noteRead]

/-- A planned batch on present tables is answered and acts on the contents as on a plain map. -/
theorem carryOut_of_present (stored : r.cluster.keyspaces[r.keyspace]? = some keyspace)
    (orderly : keyspace.Orderly) {batch : Batch} {context : String} {answer : α}
    (h : plan r = .ok (.write batch context answer))
    (present : ∀ mutation ∈ batch, keyspace.tables.contains mutation.table)
    (writes : r.cluster.failWrites = false) :
    ∃ r' keyspace', carryOut plan r = (.ok answer, r') ∧ r.SameSwitches r' ∧
      r'.cluster.keyspaces[r'.keyspace]? = some keyspace' ∧ keyspace'.Orderly ∧
      (∀ name, keyspace'.grace? name = keyspace.grace? name) ∧
      r'.contents = r.contents.applyAll batch := by
  obtain ⟨orderly', graces, hcontents⟩ := Keyspace.write_spec orderly r.cluster.clock present
  let after : Replicated :=
    { r with cluster := { r.cluster.noteLevel .one with
        keyspaces := r.cluster.keyspaces.insert r.keyspace
          (keyspace.write r.cluster.clock batch) } }
  have stored' : after.cluster.keyspaces[after.keyspace]? =
      some (keyspace.write r.cluster.clock batch) := by simp [after]
  refine ⟨after, _, ?_, ⟨rfl, ?_, ?_⟩, stored', orderly', graces, ?_⟩
  · simp [carryOut, h, Cluster.execute_of_present stored present, writes, after]
  · simp [after]
  · simp [after]
  · rw [contents_of_stored stored', hcontents, contents_of_stored stored]

/-- A planned batch is answered and acts on the contents as on a plain map. -/
theorem Ready.carryOut_of_write (ready : r.Ready keyspace) {batch : Batch} {context : String}
    {answer : α} (h : plan r = .ok (.write batch context answer))
    (named : Contents.Within tableNames batch)
    (writes : r.cluster.failWrites = false) :
    ∃ r' keyspace', carryOut plan r = (.ok answer, r') ∧ r'.Ready keyspace' ∧
      r.SameSwitches r' ∧ r'.contents = r.contents.applyAll batch := by
  have present : ∀ mutation ∈ batch, keyspace.tables.contains mutation.table :=
    fun mutation hm => ready.present (named mutation hm)
  obtain ⟨r', keyspace', hrun, same, stored, orderly, graces, hcontents⟩ :=
    carryOut_of_present ready.stored ready.orderly h present writes
  refine ⟨r', keyspace', hrun, ⟨stored, orderly, fun table htable => ?_⟩, same, hcontents⟩
  rw [graces]
  exact ready.graces table htable

/-- A planned batch that is answered has been written. -/
theorem Ready.contents_of_carryOut_ok (ready : r.Ready keyspace) {batch : Batch}
    {context : String} {answer result : α} (h : plan r = .ok (.write batch context answer))
    (named : Contents.Within tableNames batch) (accepted : (carryOut plan r).1 = .ok result) :
    (carryOut plan r).2.contents = r.contents.applyAll batch := by
  cases hw : r.cluster.failWrites with
  | true =>
      rw [ready.carryOut_of_failWrites h named hw] at accepted
      cases accepted
  | false =>
      obtain ⟨r', keyspace', hrun, -, -, written⟩ := ready.carryOut_of_write h named hw
      rw [hrun]
      exact written

/-- What a command leaves behind: the contents it met, or those after the batch of its plan. -/
theorem Ready.carryOut_cases (ready : r.Ready keyspace)
    (named : ∀ batch context answer, plan r = .ok (.write batch context answer) →
      Contents.Within tableNames batch) :
    ∃ keyspace', (carryOut plan r).2.Ready keyspace' ∧ r.SameSwitches (carryOut plan r).2 ∧
      ((carryOut plan r).2.contents = r.contents ∨
        ∃ batch context answer, plan r = .ok (.write batch context answer) ∧
          (carryOut plan r).1 = .ok answer ∧
          (carryOut plan r).2.contents = r.contents.applyAll batch) := by
  cases hp : plan r with
  | error e =>
      rw [carryOut_of_error hp]
      exact ⟨keyspace, ready.noteRead, sameSwitches_noteRead r, Or.inl (contents_noteRead r)⟩
  | ok decided =>
      cases decided with
      | keep answer =>
          rw [carryOut_of_keep hp]
          exact ⟨keyspace, ready.noteRead, sameSwitches_noteRead r, Or.inl (contents_noteRead r)⟩
      | write batch context answer =>
          have within := named batch context answer hp
          cases hw : r.cluster.failWrites with
          | true =>
              rw [ready.carryOut_of_failWrites hp within hw]
              exact ⟨keyspace, ready.noteRead, sameSwitches_noteRead r,
                Or.inl (contents_noteRead r)⟩
          | false =>
              obtain ⟨r', keyspace', hr, ready', same, hcontents⟩ :=
                ready.carryOut_of_write hp within hw
              rw [hr]
              exact ⟨keyspace', ready', same,
                Or.inr ⟨batch, context, answer, rfl, rfl, hcontents⟩⟩

end Writing

/-! ## Directories without failures -/

/-- The directory is ready, and nothing is made to fail. -/
structure Live (r : Replicated) : Prop where
  ready : ∃ keyspace, r.Ready keyspace
  reads : r.cluster.failReads = false
  writes : r.cluster.failWrites = false

section Live

variable {α : Type} {r : Replicated} {plan : Replicated → Except DirectoryError (Plan α)}

theorem Live.noteRead (live : r.Live) : r.noteRead.Live := by
  obtain ⟨keyspace, ready⟩ := live.ready
  have same := sameSwitches_noteRead r
  exact ⟨⟨keyspace, ready.noteRead⟩, same.failReads.trans live.reads,
    same.failWrites.trans live.writes⟩

/-- A planned batch is written and answered. -/
theorem Live.carryOut_of_write (live : r.Live) {batch : Batch} {context : String} {answer : α}
    (h : plan r = .ok (.write batch context answer))
    (named : Contents.Within tableNames batch) :
    ∃ r', carryOut plan r = (.ok answer, r') ∧ r'.Live ∧
      r'.contents = r.contents.applyAll batch := by
  obtain ⟨keyspace, ready⟩ := live.ready
  obtain ⟨r', keyspace', hrun, ready', same, hcontents⟩ :=
    ready.carryOut_of_write h named live.writes
  have live' : r'.Live :=
    ⟨⟨keyspace', ready'⟩, same.failReads.trans live.reads, same.failWrites.trans live.writes⟩
  exact ⟨r', hrun, live', hcontents⟩

theorem Live.mem_columnNames (live : r.Live) {table : String} (h : table ∈ tableNames)
    (key name : String) :
    name ∈ r.columnNames table key ↔ ∃ value, (r.contents table key)[name]? = some value := by
  obtain ⟨keyspace, ready⟩ := live.ready
  exact ready.mem_columnNames h live.reads key name

end Live

end Replicated

end Switchboard
