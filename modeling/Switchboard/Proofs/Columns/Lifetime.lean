import Switchboard.Proofs.Columns.Tombstones

/-! # How long emptied rows last

A row that loses its last cell in a table with a grace period stays in the table until the
first batch, of whatever contents, that comes when the grace period is over. What carries the
proof is that a table keeps time: its queue of tombstones is sorted, holds the entry of every
emptied row, and its emptied rows are those that the past of the keyspace says.
-/

namespace Switchboard.Columns

/-! ## Emptied rows in the past -/

namespace Moment

/-- The row lost its last cell at this time and has had none since; this came after. -/
def Emptied (past : List Moment) (table key : String) (time : Nat) (after : List Moment) : Prop :=
  ∃ before mutation, past = before ++ .change time mutation :: after ∧
    contents before table key ≠ ∅ ∧
    ∀ since, since <+: after → contents (before ++ .change time mutation :: since) table key = ∅

/-- The row was emptied at this time, and no batch has come since at a time when its grace was
over. -/
def Lingers (past : List Moment) (grace : Nat) (table key : String) (time : Nat) : Prop :=
  ∃ after, Emptied past table key time after ∧ ∀ t, .batch t ∈ after → t < time + grace

section Past

variable {past : List Moment} {grace time : Nat} {table key : String}

theorem contents_batch (past : List Moment) (time : Nat) :
    contents (past ++ [.batch time]) = contents past := contents_concat past (.batch time)

theorem mem_changes_concat {moment : Moment} {mutation : Mutation} :
    mutation ∈ changes (past ++ [moment]) ↔
      mutation ∈ changes past ∨ mutation ∈ moment.mutation? := by
  rw [changes, List.filterMap_append, List.mem_append]
  refine or_congr_right ?_
  cases hmutation : moment.mutation? <;> simp [hmutation, eq_comm]

theorem Emptied.empty {after : List Moment} (emptied : Emptied past table key time after) :
    contents past table key = ∅ := by
  obtain ⟨before, mutation, rfl, -, hempty⟩ := emptied
  exact hempty after (List.prefix_refl after)

/-- A row is emptied by the last moment, or it was emptied before and still has no cells. -/
theorem emptied_concat_iff {moment : Moment} {after : List Moment} :
    Emptied (past ++ [moment]) table key time after ↔
      contents (past ++ [moment]) table key = ∅ ∧
        ((∃ earlier, after = earlier ++ [moment] ∧ Emptied past table key time earlier) ∨
          (after = [] ∧ contents past table key ≠ ∅ ∧
            ∃ mutation, moment = .change time mutation)) := by
  constructor
  · intro emptied
    refine ⟨emptied.empty, ?_⟩
    obtain ⟨before, mutation, hpast, hlive, hempty⟩ := emptied
    rcases List.eq_nil_or_concat' after with rfl | ⟨earlier, last, rfl⟩
    · obtain ⟨rfl, hmoment⟩ := List.append_inj' hpast rfl
      exact Or.inr ⟨rfl, hlive, mutation, List.singleton_inj.1 hmoment⟩
    · rw [← List.cons_append, ← List.append_assoc] at hpast
      obtain ⟨hfront, hlast⟩ := List.append_inj' hpast rfl
      rw [List.singleton_inj.1 hlast]
      refine Or.inl ⟨earlier, rfl, before, mutation, hfront, hlive, ?_⟩
      exact fun since hsince => hempty since (hsince.trans (List.prefix_append earlier [last]))
  · rintro ⟨hnow, ⟨earlier, rfl, before, mutation, rfl, hlive, hempty⟩ |
      ⟨rfl, hlive, mutation, rfl⟩⟩
    · refine ⟨before, mutation, by simp, hlive, ?_⟩
      intro since hsince
      rcases List.prefix_concat_iff.1 hsince with rfl | hbefore
      · simpa using hnow
      · exact hempty since hbefore
    · refine ⟨past, mutation, rfl, hlive, ?_⟩
      intro since hsince
      rw [List.prefix_nil.1 hsince]
      exact hnow

theorem not_lingers_of_live (live : contents past table key ≠ ∅) :
    ¬ Lingers past grace table key time := by
  rintro ⟨after, hemptied, -⟩
  exact live hemptied.empty

theorem lingers_batch_iff {now : Nat} :
    Lingers (past ++ [.batch now]) grace table key time ↔
      Lingers past grace table key time ∧ now < time + grace := by
  constructor
  · rintro ⟨after, hemptied, hdue⟩
    obtain ⟨-, ⟨earlier, rfl, hbefore⟩ | ⟨-, -, _, hchange⟩⟩ := emptied_concat_iff.1 hemptied
    · have hearlier := fun t ht => hdue t (List.mem_append_left _ ht)
      exact ⟨⟨earlier, hbefore, hearlier⟩, hdue now (by simp)⟩
    · cases hchange
  · rintro ⟨⟨earlier, hemptied, hdue⟩, hnow⟩
    have hempty : contents (past ++ [.batch now]) table key = ∅ := by
      rw [contents_batch]
      exact hemptied.empty
    refine ⟨_, emptied_concat_iff.2 ⟨hempty, Or.inl ⟨earlier, rfl, hemptied⟩⟩, ?_⟩
    intro t ht
    rcases List.mem_append.1 ht with hbefore | hlast
    · exact hdue t hbefore
    · cases List.mem_singleton.1 hlast
      exact hnow

section Change

variable {now : Nat} {mutation : Mutation}
  (empty : contents (past ++ [.change now mutation]) table key = ∅)
include empty

/-- A row that was empty before a change and is so after it lingers as before. -/
theorem lingers_change_iff_of_empty (before : contents past table key = ∅) :
    Lingers (past ++ [.change now mutation]) grace table key time ↔
      Lingers past grace table key time := by
  constructor
  · rintro ⟨after, hemptied, hdue⟩
    obtain ⟨-, ⟨earlier, rfl, hbefore⟩ | ⟨-, hlive, -⟩⟩ := emptied_concat_iff.1 hemptied
    · exact ⟨earlier, hbefore, fun t ht => hdue t (List.mem_append_left _ ht)⟩
    · exact absurd before hlive
  · rintro ⟨earlier, hemptied, hdue⟩
    refine ⟨_, emptied_concat_iff.2 ⟨empty, Or.inl ⟨earlier, rfl, hemptied⟩⟩, ?_⟩
    intro t ht
    rcases List.mem_append.1 ht with hbefore | hlast
    · exact hdue t hbefore
    · cases List.mem_singleton.1 hlast

/-- The change that empties a row starts its grace period. -/
theorem lingers_change_iff_of_live (live : contents past table key ≠ ∅) :
    Lingers (past ++ [.change now mutation]) grace table key time ↔ time = now := by
  constructor
  · rintro ⟨after, hemptied, -⟩
    obtain ⟨-, ⟨_, -, hbefore⟩ | ⟨-, -, _, hchange⟩⟩ := emptied_concat_iff.1 hemptied
    · exact absurd hbefore.empty live
    · cases hchange
      rfl
  · rintro rfl
    exact ⟨[], emptied_concat_iff.2 ⟨empty, Or.inr ⟨rfl, live, mutation, rfl⟩⟩, nofun⟩

end Change

end Past

end Moment

/-! ## Tables that keep time -/

namespace Table

/-- The emptied rows of a table and its queue of tombstones agree with the past. -/
structure KeepsTime (past : List Moment) (name : String) (table : Table) : Prop where
  sorted : table.tombstones.Pairwise (·.1 ≤ ·.1)
  dated : ∀ entry ∈ table.tombstones, ∃ moment ∈ past, moment.time = entry.1
  queued : ∀ {key : String} {row : StoredRow} {time : Nat}, table.rows[key]? = some row →
    row.deletedAt = some time → (time, key) ∈ table.tombstones
  emptied_iff : ∀ key time, table.rows[key]? = some ⟨∅, some time⟩ ↔
    0 < table.grace ∧ Moment.Lingers past table.grace name key time

variable {past : List Moment} {name : String} {table : Table}

theorem rows_purge (keeps : table.KeepsTime past name) (now : Nat) (key : String)
    (row : StoredRow) :
    (table.purge now).rows[key]? = some row ↔
      table.rows[key]? = some row ∧ row.inDate table.grace now :=
  rows_purgeRows keeps.sorted keeps.queued key row

theorem tombstones_purge (keeps : table.KeepsTime past name) (now : Nat) :
    (table.purge now).tombstones =
      table.tombstones.filter fun entry => now - entry.1 < table.grace :=
  tombstones_purgeRows keeps.sorted

/-- A new table keeps time if no change has been made to it. -/
theorem keepsTime_ofDef (definition : TableDef)
    (untouched : ∀ mutation ∈ Moment.changes past, mutation.table ≠ name) :
    (ofDef definition).KeepsTime past name where
  sorted := List.Pairwise.nil
  dated := nofun
  queued := fun {key} _ _ hrow => by simp [ofDef] at hrow
  emptied_iff := by
    intro key time
    constructor
    · intro hrow
      simp [ofDef] at hrow
    · rintro ⟨-, after, ⟨before, mutation, rfl, hlive, -⟩, -⟩
      have hnone : Moment.contents before name = fun _ => ∅ := by
        refine Contents.applyAll_of_table_ne fun m hm => untouched m ?_
        rw [Moment.changes, List.filterMap_append]
        exact List.mem_append_left _ hm
      exact absurd (congrFun hnone key) hlive

/-- A batch purges what has been empty for the grace period. -/
theorem KeepsTime.purge (keeps : table.KeepsTime past name) (now : Nat) :
    (table.purge now).KeepsTime (past ++ [.batch now]) name where
  sorted := by
    rw [tombstones_purge keeps]
    exact keeps.sorted.filter _
  dated := by
    intro entry hentry
    rw [tombstones_purge keeps, List.mem_filter] at hentry
    obtain ⟨moment, hmoment, htime⟩ := keeps.dated entry hentry.1
    exact ⟨moment, List.mem_append_left _ hmoment, htime⟩
  queued := by
    intro key row time hrow htime
    obtain ⟨hstored, hdate⟩ := (rows_purge keeps now key row).1 hrow
    rw [StoredRow.inDate, htime, Option.all_some] at hdate
    rw [tombstones_purge keeps]
    exact List.mem_filter.2 ⟨keeps.queued hstored htime, hdate⟩
  emptied_iff := by
    intro key time
    have hgrace : (table.purge now).grace = table.grace := rfl
    rw [rows_purge keeps, keeps.emptied_iff, Moment.lingers_batch_iff, StoredRow.inDate,
      Option.all_some, decide_eq_true_iff, hgrace]
    constructor
    · rintro ⟨⟨hpositive, hlingers⟩, hdate⟩
      exact ⟨hpositive, hlingers, by omega⟩
    · rintro ⟨hpositive, hlingers, hdue⟩
      exact ⟨⟨hpositive, hlingers⟩, by omega⟩

/-- A change buries the rows that it empties and leaves the other emptied rows as they are. -/
theorem KeepsTime.change (keeps : table.KeepsTime past name) {after : Table} {key : String}
    {now : Nat} {mutation : Mutation} (outcome : table.Outcome key now after)
    (orderly : after.Orderly) (earlier : ∀ moment ∈ past, moment.time ≤ now)
    (before : table.cells = Moment.contents past name)
    (cells : after.cells = Moment.contents (past ++ [.change now mutation]) name) :
    after.KeepsTime (past ++ [.change now mutation]) name where
  sorted := by
    rcases outcome.tombstones with hsame | hnew
    · rw [hsame]
      exact keeps.sorted
    · rw [hnew]
      refine List.pairwise_append.2 ⟨keeps.sorted, List.pairwise_singleton .., ?_⟩
      intro entry hentry last hlast
      obtain ⟨moment, hmoment, htime⟩ := keeps.dated entry hentry
      rw [List.mem_singleton.1 hlast, ← htime]
      exact earlier moment hmoment
  dated := by
    intro entry hentry
    have hcases : entry ∈ table.tombstones ∨ entry = (now, key) := by
      rcases outcome.tombstones with hsame | hnew
      · exact Or.inl (hsame ▸ hentry)
      · simpa [hnew] using hentry
    rcases hcases with hold | rfl
    · obtain ⟨moment, hmoment, htime⟩ := keeps.dated entry hold
      exact ⟨moment, List.mem_append_left _ hmoment, htime⟩
    · exact ⟨_, List.mem_append_right _ (List.mem_singleton.2 rfl), rfl⟩
  queued := by
    intro k row time hrow htime
    have hempty : row.columns = ∅ := (orderly.deleted_iff hrow).1 (by simp [htime])
    have hcells : after.cells k = ∅ := (cells_of_row hrow).trans hempty
    by_cases hbefore : table.cells k = ∅
    · rw [outcome.rows_of_empty hbefore hcells] at hrow
      have hold := keeps.queued hrow htime
      rcases outcome.tombstones with hsame | hnew
      · rwa [hsame]
      · rw [hnew]
        exact List.mem_append_left _ hold
    · -- The row has lost its cells, so the change has just put its entry at the end.
      rw [outcome.eq_bury hbefore hcells] at hrow ⊢
      rw [rows_bury, if_pos rfl] at hrow
      rw [tombstones_bury_fresh]
      split at hrow
      · cases hrow
      · next hgrace =>
          cases hrow
          cases htime
          rw [if_neg hgrace]
          exact List.mem_append_right _ (List.mem_singleton.2 rfl)
  emptied_iff := by
    intro k time
    by_cases hempty : after.cells k = ∅
    · by_cases hbefore : table.cells k = ∅
      · rw [outcome.rows_of_empty hbefore hempty, outcome.grace, keeps.emptied_iff,
          Moment.lingers_change_iff_of_empty (cells ▸ hempty) (before ▸ hbefore)]
      · rw [Moment.lingers_change_iff_of_live (cells ▸ hempty) (before ▸ hbefore),
          outcome.eq_bury hbefore hempty, rows_bury, if_pos rfl, grace_bury]
        by_cases hgrace : table.grace = 0
        · simp [hgrace]
        · simp [hgrace, Nat.pos_of_ne_zero hgrace, eq_comm]
    · constructor
      · exact fun hrow => absurd (cells_of_row hrow) hempty
      · rintro ⟨-, hlingers⟩
        exact absurd hlingers (Moment.not_lingers_of_live (cells ▸ hempty))

end Table

namespace Keyspace

/-- The tables of a keyspace keep time, and its past has changed no table that is missing. -/
structure KeepsTime (past : List Moment) (keyspace : Keyspace) : Prop where
  plain : keyspace.Plain past
  named : ∀ mutation ∈ Moment.changes past, keyspace.tables.contains mutation.table
  tables : ∀ (name : String) table, keyspace.tables[name]? = some table →
    table.KeepsTime past name

/-- A change leaves a table as it is or is a change of one of its rows. -/
theorem outcome_apply {keyspace : Keyspace} (orderly : keyspace.Orderly) {time : Nat}
    {mutation : Mutation} {name : String} {after : Table}
    (held : (keyspace.apply time mutation).tables[name]? = some after) :
    ∃ table, keyspace.tables[name]? = some table ∧ ∃ key, table.Outcome key time after := by
  rw [tables_apply] at held
  split at held
  · obtain ⟨table, hbefore, rfl⟩ := Option.map_eq_some_iff.1 held
    exact ⟨table, hbefore, mutation.row, (orderly name table hbefore).outcome_apply time mutation⟩
  · exact ⟨after, held, "", .same⟩

theorem lasting_keepsTime : Cluster.Lasting KeepsTime where
  created := by
    intro definition
    refine ⟨lasting_plain.created definition, nofun, ?_⟩
    intro name table held
    rw [tables_ofDef, Option.map_eq_some_iff] at held
    obtain ⟨first, -, rfl⟩ := held
    exact Table.keepsTime_ofDef first nofun
  added := by
    intro past keyspace table before absent
    have hnamed : ∀ mutation ∈ Moment.changes past,
        (keyspace.addTable table).tables.contains mutation.table := by
      intro mutation hmutation
      rw [addTable, Std.ExtTreeMap.contains_insert, before.named mutation hmutation, Bool.or_true]
    refine ⟨lasting_plain.added before.plain absent, hnamed, ?_⟩
    refine Maps.forall_insert before.tables (Table.keepsTime_ofDef table ?_)
    intro mutation hmutation hname
    have hpresent := before.named mutation hmutation
    rw [hname, absent] at hpresent
    cases hpresent
  passed := by
    intro past keyspace moment before earlier present
    have hplain := lasting_plain.passed before.plain earlier present
    have hnamed : ∀ mutation ∈ Moment.changes (past ++ [moment]),
        (keyspace.pass moment).tables.contains mutation.table := by
      intro mutation hmutation
      rw [contains_pass]
      rcases Moment.mem_changes_concat.1 hmutation with hbefore | hnew
      · exact before.named mutation hbefore
      · exact present mutation hnew
    refine ⟨hplain, hnamed, ?_⟩
    intro name after hafter
    cases moment with
    | batch time =>
        rw [pass, tables_purge, Option.map_eq_some_iff] at hafter
        obtain ⟨table, held, rfl⟩ := hafter
        exact (before.tables name table held).purge time
    | change time mutation =>
        have horderly := hplain.orderly name after hafter
        have hcells := (contents_of_table hafter).symm.trans (congrFun hplain.contents name)
        obtain ⟨table, held, key, houtcome⟩ := outcome_apply before.plain.orderly hafter
        have hbefore := (contents_of_table held).symm.trans (congrFun before.plain.contents name)
        exact (before.tables name table held).change houtcome horderly earlier hbefore hcells

end Keyspace

/-! ## Lifetimes -/

structure Table.Lifetimes (past : List Moment) (name : String) (table : Table) : Prop where
  /-- A row with cells is there. -/
  live : ∀ key, Moment.contents past name key ≠ ∅ →
    table.rows[key]? = some ⟨Moment.contents past name key, none⟩
  /-- A row without cells is there from the change that emptied it to the first batch that comes
  when its grace period is over. -/
  emptied_iff : ∀ key, (∃ row, table.rows[key]? = some row ∧ row.columns = ∅) ↔
    0 < table.grace ∧ ∃ time, Moment.Lingers past table.grace name key time
  /-- A purge at any time keeps the rows that have cells. -/
  kept : ∀ key now, Moment.contents past name key ≠ ∅ →
    (table.purge now).rows[key]? = table.rows[key]?
  /-- Deleting from a row without cells changes nothing, the time of its deletion included. -/
  again : ∀ now mutation, mutation.isInsert = false →
    Moment.contents past name mutation.row = ∅ → table.apply now mutation = table
  /-- An insert makes a row live. -/
  revived : ∀ key column value, (table.insert key column value).rows[key]? =
    some ⟨(Moment.contents past name key).insert column value, none⟩
  sorted : table.tombstones.Pairwise (·.1 ≤ ·.1)
  /-- Every emptied row has an entry in the queue, made at the time that it was emptied. -/
  queued : ∀ key row, table.rows[key]? = some row → row.columns = ∅ →
    ∃ time, row.deletedAt = some time ∧ (time, key) ∈ table.tombstones ∧
      Moment.Lingers past table.grace name key time

theorem Keyspace.KeepsTime.lifetimes {past : List Moment} {keyspace : Keyspace}
    (keeps : keyspace.KeepsTime past) {name : String} {table : Table}
    (held : keyspace.tables[name]? = some table) : table.Lifetimes past name := by
  have horderly := keeps.plain.orderly name table held
  have htable := keeps.tables name table held
  have hcells : table.cells = Moment.contents past name :=
    (contents_of_table held).symm.trans (congrFun keeps.plain.contents name)
  have hlive : ∀ key, Moment.contents past name key ≠ ∅ →
      table.rows[key]? = some ⟨Moment.contents past name key, none⟩ := by
    intro key live
    rw [← hcells] at live ⊢
    cases hrow : table.rows[key]? with
    | none => exact absurd (Table.cells_of_no_row hrow) live
    | some row => rw [horderly.live hrow (by rwa [Table.cells_of_row hrow] at live)]
  refine ⟨hlive, ?_, ?_, ?_, ?_, htable.sorted, ?_⟩
  · intro key
    constructor
    · rintro ⟨row, hrow, hempty⟩
      obtain ⟨-, time, rfl⟩ := horderly.tombstone hrow hempty
      obtain ⟨hgrace, hlingers⟩ := (htable.emptied_iff key time).1 hrow
      exact ⟨hgrace, time, hlingers⟩
    · rintro ⟨hgrace, time, hlingers⟩
      exact ⟨_, (htable.emptied_iff key time).2 ⟨hgrace, hlingers⟩, rfl⟩
  · intro key now live
    rw [hlive key live]
    exact (Table.rows_purge htable now key _).2 ⟨hlive key live, rfl⟩
  · intro now mutation deletes empty
    exact horderly.apply_of_empty now deletes (by rw [hcells, empty])
  · intro key column value
    rw [Table.rows_insert, if_pos rfl, hcells]
  · intro key row hrow hempty
    obtain ⟨-, time, rfl⟩ := horderly.tombstone hrow hempty
    exact ⟨time, rfl, htable.queued hrow rfl, ((htable.emptied_iff key time).1 hrow).2⟩

/-! ## Grace periods -/

/-- The definition of a table; of two with one name the later counts. -/
def KeyspaceDef.table? (definition : KeyspaceDef) (name : String) : Option TableDef :=
  definition.tables.reverse.find? (·.name = name)

theorem Keyspace.table?_addTable (keyspace : Keyspace) (table : TableDef) (name : String) :
    (keyspace.addTable table).definition.table? name =
      if table.name = name then some table else keyspace.definition.table? name := by
  simp only [KeyspaceDef.table?, addTable, List.reverse_append, List.reverse_singleton,
    List.singleton_append, List.find?_cons]
  by_cases same : table.name = name
  · simp [same]
  · simp [same]

/-- The tables have the grace periods that the definition of the keyspace gives them. -/
def Keyspace.GracesDefined (keyspace : Keyspace) : Prop :=
  ∀ name, keyspace.grace? name = (keyspace.definition.table? name).map (·.grace.nanos)

theorem Keyspace.lasting_gracesDefined :
    Cluster.Lasting fun _ keyspace => keyspace.GracesDefined where
  created := by
    intro definition name
    rw [grace?, tables_ofDef, Option.map_map]
    rfl
  added := by
    intro past keyspace table before absent name
    rw [grace?_addTable, table?_addTable, before name]
    split <;> rfl
  passed := by
    intro past keyspace moment before earlier present name
    cases moment with
    | batch time => exact (keyspace.grace?_purge time name).trans (before name)
    | change time mutation =>
        exact (keyspace.grace?_apply time mutation name).trans (before name)

/-- After every history of calls the rows of every table have lasted as long as the past of the
keyspace and the grace period in the definition of the table say. -/
theorem Cluster.emptied_rows_last_for_grace (calls : List Cluster.Call) {name table : String}
    {held : Table} (there : (({} : Cluster).afterCalls calls).table? name table = some held) :
    held.Lifetimes (Cluster.past name calls) table ∧
      ∃ definition, (({} : Cluster).afterCalls calls).describe? name = some definition ∧
        some held.grace = (definition.table? table).map (·.grace.nanos) := by
  obtain ⟨keyspace, stored, hheld⟩ := Option.bind_eq_some_iff.1 there
  have graces := Keyspace.lasting_gracesDefined.afterCalls name calls stored table
  rw [Keyspace.grace?, hheld] at graces
  refine ⟨(Keyspace.lasting_keepsTime.afterCalls name calls stored).lifetimes hheld, _, ?_, graces⟩
  rw [describe?, stored, Option.map_some]

/-- A row that is deleted at the start is still there a nanosecond before its grace period of a
second is over, after a batch without changes. -/
theorem Cluster.emptied_row_lasts_for_a_second :
    let calls : List Call :=
      [.createKeyspace { name := "directory", tables := [⟨"nodes", 1⟩] },
        .execute "directory" [.insert "nodes" "n1" "name" "east"] .one,
        .execute "directory" [.deleteRow "nodes" "n1"] .one, .advance ⟨999999999⟩,
        .execute "directory" [] .one]
    ∃ held, (({} : Cluster).afterCalls calls).table? "directory" "nodes" = some held ∧
      held.rows["n1"]? = some ⟨∅, some 0⟩ ∧ held.Lifetimes (past "directory" calls) "nodes" ∧
      held.grace = (TableDef.mk "nodes" 1).grace.nanos := by
  intro calls
  have there : (({} : Cluster).afterCalls calls).table? "directory" "nodes" =
      some ⟨1000000000, Std.ExtTreeMap.insert ∅ "n1" ⟨∅, some 0⟩, [(0, "n1")]⟩ := by
    decide +kernel
  exact ⟨_, there, by simp, (emptied_rows_last_for_grace calls there).1, rfl⟩

end Switchboard.Columns
