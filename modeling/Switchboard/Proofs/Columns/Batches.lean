import Switchboard.Proofs.Columns.History

/-! # Batches as changes of a plain map

Whatever has happened to a cluster before, a batch that is carried out changes what reads show
as it changes a plain map from table, row and column name to value. Tombstones show only as
rows without columns in the scans of a table. A batch that is refused changes no keyspace, and
no batch changes what is read of the rows that it does not name or of another keyspace.
-/

namespace Switchboard.Columns

/-! ## Rows that a batch names -/

namespace Mutation

def row : Mutation → String
  | insert _ row .. => row
  | deleteColumn _ row _ => row
  | deleteRow _ row => row

def Names (mutation : Mutation) (table key : String) : Prop :=
  mutation.table = table ∧ mutation.row = key

end Mutation

namespace Contents

theorem apply_of_not_names (contents : Contents) {mutation : Mutation} {table key : String}
    (other : ¬ mutation.Names table key) :
    contents.apply mutation table key = contents table key := by
  cases mutation <;> exact if_neg other

theorem applyAll_of_not_names (contents : Contents) {batch : Batch} {table key : String}
    (others : ∀ mutation ∈ batch, ¬ mutation.Names table key) :
    contents.applyAll batch table key = contents table key := by
  induction batch generalizing contents with
  | nil => rfl
  | cons mutation rest ih =>
      obtain ⟨hfirst, hrest⟩ := List.forall_mem_cons.1 others
      exact (ih (contents.apply mutation) hrest).trans (apply_of_not_names contents hfirst)

end Contents

/-! ## Contents that the past leaves -/

namespace Moment

def changes (past : List Moment) : Batch := past.filterMap mutation?

/-- What the changes of a past make of a plain map without cells. -/
def contents (past : List Moment) : Contents := Contents.applyAll (fun _ _ => ∅) (changes past)

theorem contents_concat (past : List Moment) (moment : Moment) :
    contents (past ++ [moment]) = (contents past).applyAll (changes [moment]) := by
  rw [contents, changes, List.filterMap_append, Contents.applyAll_append]
  rfl

end Moment

namespace Keyspace

theorem orderly_ofDef (definition : KeyspaceDef) : (ofDef definition).Orderly :=
  fun _ _ held => Table.Orderly.of_no_rows (rows_ofDef definition held)

theorem contents_ofDef (definition : KeyspaceDef) :
    (ofDef definition).contents = fun _ _ => ∅ := by
  funext name
  rw [contents, tables_ofDef]
  cases definition.tables.reverse.find? (·.name = name) with
  | none => rfl
  | some table => exact Table.cells_ofDef table

/-- A table that was missing had no cells, and has none when it is new. -/
theorem contents_addTable {keyspace : Keyspace} {table : TableDef}
    (absent : keyspace.tables.contains table.name = false) :
    (keyspace.addTable table).contents = keyspace.contents := by
  funext name
  rw [contents, tables_addTable, contents]
  by_cases hname : table.name = name
  · have hmissing : keyspace.tables[name]? = none :=
      hname ▸ Std.ExtTreeMap.getElem?_eq_none_of_contains_eq_false absent
    rw [if_pos hname, hmissing]
    exact Table.cells_ofDef table
  · rw [if_neg hname]

/-- The tables of a keyspace are in order and show what its past leaves. -/
structure Plain (past : List Moment) (keyspace : Keyspace) : Prop where
  orderly : keyspace.Orderly
  contents : keyspace.contents = Moment.contents past

theorem lasting_plain : Cluster.Lasting Plain where
  created := fun definition => ⟨orderly_ofDef definition, contents_ofDef definition⟩
  added := fun before absent =>
    ⟨before.orderly.addTable _, (contents_addTable absent).trans before.contents⟩
  passed := by
    intro past keyspace moment before _ present
    cases moment with
    | batch time =>
        refine ⟨before.orderly.purge time, ?_⟩
        rw [Moment.contents_concat, ← before.contents]
        exact contents_purge before.orderly time
    | change time mutation =>
        refine ⟨before.orderly.apply time mutation, ?_⟩
        rw [Moment.contents_concat, ← before.contents]
        exact contents_apply time (present mutation rfl)

end Keyspace

/-! ## Ranges -/

/-- The keys of the first rows of a range, among the keys of the rows that are stored. -/
def Range.first (range : Range) (stored : List String) : List String :=
  upTo range.limit (stored.filter fun key => range.start ≤ key)

/-- How far a range reaches when these are its rows: from its start to the end, or to the last
of its rows when its limit ends it. -/
def Range.Reaches (range : Range) (keys : List String) (key : String) : Prop :=
  range.start ≤ key ∧ (range.limit = some keys.length → ∃ last ∈ keys, key ≤ last)

theorem map_upTo {α β : Type} (f : α → β) (limit : Option Nat) (list : List α) :
    upTo limit (list.map f) = (upTo limit list).map f := by
  cases limit with
  | none => rfl
  | some n => exact List.map_take.symm

theorem mem_of_mem_upTo {α : Type} {limit : Option Nat} {list : List α} {a : α}
    (h : a ∈ upTo limit list) : a ∈ list := by
  cases limit with
  | none => exact h
  | some n => exact List.mem_of_mem_take h

/-- What a limit cuts off a sorted list lies above all that it leaves. -/
theorem mem_upTo_iff {limit : Option Nat} {keys : List String}
    (sorted : keys.Pairwise (· < ·)) {key : String} (listed : key ∈ keys) :
    key ∈ upTo limit keys ↔
      (limit = some (upTo limit keys).length → ∃ last ∈ upTo limit keys, key ≤ last) := by
  constructor
  · exact fun h _ => ⟨key, h, String.le_refl key⟩
  · intro reached
    cases limit with
    | none => exact listed
    | some n =>
        by_cases hfull : n = (keys.take n).length
        · obtain ⟨last, hlast, hle⟩ := reached (congrArg some hfull)
          rw [← List.take_append_drop n keys] at sorted listed
          rcases List.mem_append.1 listed with htaken | hdropped
          · exact htaken
          · have hlt := (List.pairwise_append.1 sorted).2.2 last hlast key hdropped
            exact absurd hlt hle
        · have hshort : keys.length ≤ n := by
            rw [List.length_take] at hfull
            omega
          rw [upTo, List.take_of_length_le hshort]
          exact listed

theorem Range.mem_first_iff (range : Range) {stored : List String}
    (sorted : stored.Pairwise (· < ·)) {key : String} (listed : key ∈ stored) :
    key ∈ range.first stored ↔ range.Reaches (range.first stored) key := by
  constructor
  · intro h
    have hstart : range.start ≤ key := by simpa using (List.mem_filter.1 (mem_of_mem_upTo h)).2
    exact ⟨hstart, fun _ => ⟨key, h, String.le_refl key⟩⟩
  · intro ⟨hstart, hreached⟩
    have hlisted : key ∈ stored.filter fun key => range.start ≤ key :=
      List.mem_filter.2 ⟨listed, by simpa using hstart⟩
    exact (mem_upTo_iff (sorted.filter _) hlisted).2 hreached

/-! ## Tables that are read -/

theorem Table.scan_eq_map_first (table : Table) (range : Range) (projection : Projection) :
    table.scan range projection = (range.first table.rows.keys).map fun key =>
      ⟨key, (table.cells key).selected projection⟩ := by
  have hkeys : range.first table.rows.keys =
      (upTo range.limit <| table.rows.toList.filter fun entry =>
        range.start ≤ entry.1).map (·.1) := by
    rw [Range.first, ← Std.ExtTreeMap.map_fst_toList_eq_keys, List.filter_map, map_upTo]
    rfl
  rw [hkeys, List.map_map]
  refine List.map_congr_left ?_
  rintro ⟨key, row⟩ hentry
  have hrow := Std.ExtTreeMap.mem_toList_iff_getElem?_eq_some.1
    (List.mem_filter.1 (mem_of_mem_upTo hentry)).1
  exact congrArg (Row.mk key) (by rw [Table.cells_of_row hrow, StoredRow.select_eq])

theorem Table.mem_keys_of_cells {table : Table} {key : String} (live : table.cells key ≠ ∅) :
    key ∈ table.rows.keys := by
  rw [Std.ExtTreeMap.mem_keys]
  apply Classical.byContradiction
  intro absent
  exact live (Table.cells_of_no_row (Std.ExtTreeMap.getElem?_eq_none absent))

namespace Cluster

def table? (cluster : Cluster) (name table : String) : Option Table :=
  cluster.keyspaces[name]?.bind (·.tables[table]?)

def contents (cluster : Cluster) (name : String) : Contents :=
  (cluster.keyspaces[name]?.map Keyspace.contents).getD fun _ _ => ∅

/-- The reads of a table show these cells. A scan returns the first rows of its range among the
rows that are stored, and of the rows that have cells it returns those that it reaches. -/
structure Shows (cluster : Cluster) (name table : String) (stored : List String)
    (cells : String → Cells) : Prop where
  row : ∀ key, cluster.row name table key = .ok (cells key).columns
  scan : ∀ range projection, cluster.scan name table range projection =
    .ok ((range.first stored).map fun key => ⟨key, (cells key).selected projection⟩)
  ordered : stored.Pairwise (· < ·)
  live : ∀ (range : Range) key, cells key ≠ ∅ →
    (key ∈ range.first stored ↔ range.Reaches (range.first stored) key)

theorem readable_of_table {cluster : Cluster} {name table : String} {held : Table}
    (readable : cluster.failReads = false) (there : cluster.table? name table = some held) :
    cluster.readable name table = .ok held := by
  obtain ⟨keyspace, hstored, htable⟩ := Option.bind_eq_some_iff.1 there
  simp [Cluster.readable, readable, Cluster.keyspace, hstored, htable]

theorem readable_of_no_table {cluster : Cluster} {name table : String}
    (readable : cluster.failReads = false) (absent : cluster.table? name table = none) :
    cluster.readable name table = .error (if cluster.keyspaces[name]?.isSome then
      .tableNotFound name table else .keyspaceNotFound name) := by
  cases hstored : cluster.keyspaces[name]? with
  | none => simp [Cluster.readable, readable, Cluster.keyspace, hstored]
  | some keyspace =>
      rw [table?, hstored, Option.bind_some] at absent
      simp [Cluster.readable, readable, Cluster.keyspace, hstored, absent]

theorem contents_of_table {cluster : Cluster} {name table : String} {held : Table}
    (there : cluster.table? name table = some held) : cluster.contents name table = held.cells := by
  obtain ⟨keyspace, hstored, htable⟩ := Option.bind_eq_some_iff.1 there
  rw [contents, hstored]
  exact Keyspace.contents_of_table htable

/-- The reads of a table that is there show its cells. -/
theorem shows_of_table {cluster : Cluster} {name table : String} {held : Table}
    (readable : cluster.failReads = false) (there : cluster.table? name table = some held) :
    cluster.Shows name table held.rows.keys (cluster.contents name table) where
  row := fun key => by
    rw [Cluster.row, readable_of_table readable there, contents_of_table there,
      ← Table.columns_eq]
    rfl
  scan := fun range projection => by
    rw [Cluster.scan, readable_of_table readable there, contents_of_table there,
      ← Table.scan_eq_map_first]
    rfl
  ordered := Maps.keys_sorted held.rows
  live := fun range key live => by
    rw [contents_of_table there] at live
    exact range.mem_first_iff (Maps.keys_sorted held.rows) (Table.mem_keys_of_cells live)

/-- The answer of a read says whether reads work, whether the keyspace and the table are there
and which cells the row has. -/
theorem row_congr {before after : Cluster} {name table key : String}
    (reads : after.failReads = before.failReads)
    (keyspaces : after.keyspaces[name]?.isSome = before.keyspaces[name]?.isSome)
    (tables : (after.table? name table).isSome = (before.table? name table).isSome)
    (cells : after.contents name table key = before.contents name table key) :
    after.row name table key = before.row name table key := by
  cases hreads : before.failReads with
  | true => simp [row, readable, reads, hreads, Except.map]
  | false =>
      cases hbefore : before.table? name table with
      | some held =>
          rw [hbefore, Option.isSome_some, Option.isSome_iff_exists] at tables
          obtain ⟨held', hafter⟩ := tables
          rw [(shows_of_table hreads hbefore).row,
            (shows_of_table (reads.trans hreads) hafter).row, cells]
      | none =>
          rw [hbefore, Option.isSome_none, Option.isSome_eq_false_iff,
            Option.isNone_iff_eq_none] at tables
          rw [row, row, readable_of_no_table hreads hbefore,
            readable_of_no_table (reads.trans hreads) tables, keyspaces]

/-! ## Batches -/

section Execute

variable {cluster : Cluster} {name : String} {batch : Batch} {level : Consistency}

theorem execute_of_ok (accepted : (execute name batch level cluster).1 = .ok ()) :
    ∃ keyspace, cluster.keyspaces[name]? = some keyspace ∧
      (∀ mutation ∈ batch, keyspace.tables.contains mutation.table) ∧
      (execute name batch level cluster).2 = { cluster.noteLevel level with
        keyspaces := cluster.keyspaces.insert name (keyspace.write cluster.clock batch) } := by
  obtain ⟨hwrites, keyspace, hstored, hpresent⟩ := execute_eq_ok_iff.1 accepted
  refine ⟨keyspace, hstored, hpresent, ?_⟩
  rw [execute_of_present hstored hpresent, if_neg (by simp [hwrites])]

theorem keyspaces_of_refused (refused : (execute name batch level cluster).1 ≠ .ok ()) :
    (execute name batch level cluster).2.keyspaces = cluster.keyspaces := by
  cases hanswer : (execute name batch level cluster).1 with
  | ok => exact absurd hanswer refused
  | error e =>
      have hafter : (execute name batch level cluster).2 = cluster.noteLevel level :=
        eq_of_execute_error (Prod.ext hanswer rfl)
      rw [hafter, keyspaces_noteLevel]

theorem failReads_execute (cluster : Cluster) (name : String) (batch : Batch)
    (level : Consistency) :
    (execute name batch level cluster).2.failReads = cluster.failReads := by
  unfold execute
  split <;> exact failReads_noteLevel cluster level

theorem keyspaces_execute_of_ne (cluster : Cluster) (batch : Batch) (level : Consistency)
    {name other : String} (different : other ≠ name) :
    (execute name batch level cluster).2.keyspaces[other]? = cluster.keyspaces[other]? := by
  by_cases accepted : (execute name batch level cluster).1 = .ok ()
  · obtain ⟨keyspace, -, -, hafter⟩ := execute_of_ok accepted
    rw [hafter, Maps.getElem?_insert, if_neg (Ne.symm different)]
  · rw [keyspaces_of_refused accepted]

theorem readable_execute_of_ne (cluster : Cluster) (batch : Batch) (level : Consistency)
    {name other : String} (different : other ≠ name) (table : String) :
    (execute name batch level cluster).2.readable other table = cluster.readable other table := by
  rw [readable, readable, failReads_execute, Cluster.keyspace, Cluster.keyspace,
    keyspaces_execute_of_ne cluster batch level different]

/-- A batch that is carried out acts on the contents of its keyspace as on a plain map and keeps
the tables that are there. -/
theorem contents_execute (orderly : ∀ keyspace, cluster.keyspaces[name]? = some keyspace →
      keyspace.Orderly) (accepted : (execute name batch level cluster).1 = .ok ()) :
    (execute name batch level cluster).2.contents name = (cluster.contents name).applyAll batch ∧
      ∀ table, ((execute name batch level cluster).2.table? name table).isSome =
        (cluster.table? name table).isSome := by
  obtain ⟨keyspace, hstored, hpresent, hafter⟩ := execute_of_ok accepted
  rw [hafter]
  have hnew : (cluster.keyspaces.insert name (keyspace.write cluster.clock batch))[name]? =
      some (keyspace.write cluster.clock batch) := by simp
  constructor
  · rw [contents, contents, hstored, hnew]
    exact (Keyspace.write_spec (orderly keyspace hstored) cluster.clock hpresent).2.2
  · intro table
    rw [table?, table?, hstored, hnew, Option.bind_some, Option.bind_some,
      ← Std.ExtTreeMap.contains_eq_isSome_getElem?, ← Std.ExtTreeMap.contains_eq_isSome_getElem?,
      Keyspace.write, Keyspace.contains_foldl_apply, Keyspace.contains_purge]

/-- Neither the answer of a read nor its columns change for a row that the batch does not name. -/
theorem row_execute_of_not_names
    (orderly : ∀ keyspace, cluster.keyspaces[name]? = some keyspace → keyspace.Orderly)
    {table key : String} (others : ∀ mutation ∈ batch, ¬ mutation.Names table key) :
    (execute name batch level cluster).2.row name table key = cluster.row name table key := by
  have hreads := failReads_execute cluster name batch level
  by_cases accepted : (execute name batch level cluster).1 = .ok ()
  · obtain ⟨hcontents, htables⟩ := contents_execute orderly accepted
    obtain ⟨keyspace, hstored, -, hafter⟩ := execute_of_ok accepted
    refine row_congr hreads ?_ (htables table) ?_
    · rw [hafter, hstored]
      simp
    · rw [hcontents]
      exact Contents.applyAll_of_not_names _ others
  · have hkeyspaces := keyspaces_of_refused accepted
    refine row_congr hreads (by rw [hkeyspaces]) ?_ ?_
    · rw [table?, table?, hkeyspaces]
    · rw [contents, contents, hkeyspaces]

end Execute

/-- A batch acts on a cluster, as a reader sees it, like a change of a plain map. -/
structure ActsOn (plain : Contents) (cluster : Cluster) (name : String) (batch : Batch)
    (answer : Except ClusterError Unit) (after : Cluster) : Prop where
  accepted_iff : answer = .ok () ↔ cluster.failWrites = false ∧
    ∃ keyspace, cluster.keyspaces[name]? = some keyspace ∧
      ∀ mutation ∈ batch, keyspace.tables.contains mutation.table
  /-- A batch that is refused changes no keyspace. -/
  refused : answer ≠ .ok () → after.keyspaces = cluster.keyspaces
  tables : answer = .ok () → ∀ table,
    (after.table? name table).isSome = (cluster.table? name table).isSome
  /-- Before the batch reads show the plain map. -/
  shown : cluster.failReads = false → ∀ table held, cluster.table? name table = some held →
    cluster.Shows name table held.rows.keys (plain table)
  /-- After it they show the plain map with the changes of the batch made in order. -/
  written : answer = .ok () → cluster.failReads = false →
    ∀ table held, after.table? name table = some held →
      after.Shows name table held.rows.keys (plain.applyAll batch table)
  /-- Rows that the batch does not name read the same. -/
  unnamed : ∀ table key, (∀ mutation ∈ batch, ¬ mutation.Names table key) →
    after.row name table key = cluster.row name table key
  row_elsewhere : ∀ other, other ≠ name → ∀ table key,
    after.row other table key = cluster.row other table key
  scan_elsewhere : ∀ other, other ≠ name → ∀ table range projection,
    after.scan other table range projection = cluster.scan other table range projection

/-- Every keyspace shows what its past leaves; one that is missing has no past. -/
theorem contents_eq_past (calls : List Call) (name : String) :
    (({} : Cluster).afterCalls calls).contents name = Moment.contents (past name calls) := by
  have hfollows := Follows.start.afterCalls Keyspace.lasting_plain name calls
  cases hstored : (({} : Cluster).afterCalls calls).keyspaces[name]? with
  | none =>
      rw [contents, hstored, past, hfollows.past_of_none hstored]
      rfl
  | some keyspace =>
      rw [contents, hstored]
      exact (hfollows.holds_of_some hstored).contents

/-- After every history of calls, every batch acts like a change of the plain map that the
changes made since the creation of its keyspace leave. -/
theorem execute_acts_on_plain_map (calls : List Call) (name : String) (batch : Batch)
    (level : Consistency) :
    let cluster := ({} : Cluster).afterCalls calls
    ActsOn (Moment.contents (past name calls)) cluster name batch
      (execute name batch level cluster).1 (execute name batch level cluster).2 := by
  intro cluster
  have hplain := contents_eq_past calls name
  have horderly : ∀ keyspace, cluster.keyspaces[name]? = some keyspace → keyspace.Orderly :=
    fun keyspace hstored => (Keyspace.lasting_plain.afterCalls name calls hstored).orderly
  rw [← hplain]
  refine ⟨execute_eq_ok_iff, keyspaces_of_refused, ?_, ?_, ?_, ?_, ?_, ?_⟩
  · exact fun accepted => (contents_execute horderly accepted).2
  · exact fun readable table held there => shows_of_table readable there
  · intro accepted readable table held there
    rw [← (contents_execute horderly accepted).1]
    exact shows_of_table ((failReads_execute cluster name batch level).trans readable) there
  · intro table key others
    exact row_execute_of_not_names horderly others
  · intro other different table key
    rw [row, row, readable_execute_of_ne cluster batch level different]
  · intro other different table range projection
    rw [scan, scan, readable_execute_of_ne cluster batch level different]

end Cluster

end Switchboard.Columns
