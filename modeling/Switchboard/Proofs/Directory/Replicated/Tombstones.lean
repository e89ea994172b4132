import Switchboard.Columns.Runtime
import Switchboard.Proofs.Directory.Replicated.Consistency

/-! # Tombstones do not show

Everything that a directory answers is read off the cells of its tables, and a batch acts on
the cells as on a plain map. Tables with other grace periods, under another clock, keep and
purge other emptied rows but hold the same cells, so the answers are the same ones.
-/

namespace Switchboard.Replicated

open Switchboard.Columns

/-- The keyspace holds the tables of the layout, each in order and with any grace period, and shows
these cells in them; nothing is made to fail. -/
structure Shows (r : Replicated) (cells : Contents) : Prop where
  keyspace : ∃ keyspace, r.cluster.keyspaces[r.keyspace]? = some keyspace ∧ keyspace.Orderly ∧
    ∀ name ∈ tableNames, keyspace.tables.contains name
  same : ∀ name ∈ tableNames, r.contents name = cells name
  reads : r.cluster.failReads = false
  writes : r.cluster.failWrites = false

variable {r r' d : Replicated} {cells : Contents}

theorem Live.shows (live : d.Live) : d.Shows d.contents := by
  obtain ⟨keyspace, ready⟩ := live.ready
  exact ⟨⟨keyspace, ready.stored, ready.orderly, fun _ h => ready.present h⟩, fun _ _ => rfl,
    live.reads, live.writes⟩

/-! ## Reads -/

theorem Shows.exists_table (shows : r.Shows cells) {name : String} (h : name ∈ tableNames) :
    ∃ (keyspace : Keyspace) (table : Table), r.cluster.keyspaces[r.keyspace]? = some keyspace ∧
      keyspace.tables[name]? = some table ∧ table.cells = cells name := by
  obtain ⟨keyspace, stored, -, present⟩ := shows.keyspace
  have held := present name h
  rw [Std.ExtTreeMap.contains_eq_isSome_getElem?, Option.isSome_iff_exists] at held
  obtain ⟨table, held⟩ := held
  refine ⟨keyspace, table, stored, held, ?_⟩
  rw [← shows.same name h, contents_of_stored stored, Keyspace.contents_of_table held]

theorem Shows.fetch_eq (shows : r.Shows cells) {name : String} (h : name ∈ tableNames)
    (key : String) : r.fetch name key = .ok (cells name key).columns := by
  obtain ⟨keyspace, table, stored, held, -⟩ := shows.exists_table h
  rw [fetch_of_table stored held, shows.reads, shows.same name h]
  rfl

/-- The same keys are listed, in the same order, whatever emptied rows stand between them. -/
theorem Shows.rowKeys_eq (shows : r.Shows cells) (shows' : r'.Shows cells) {name : String}
    (h : name ∈ tableNames) (projection : Projection) :
    r.rowKeys name projection = r'.rowKeys name projection := by
  obtain ⟨keyspace, table, stored, held, same⟩ := shows.exists_table h
  obtain ⟨keyspace', table', stored', held', same'⟩ := shows'.exists_table h
  rw [rowKeys_of_table stored held shows.reads, rowKeys_of_table stored' held' shows'.reads]
  refine (liveKeys_rowsOf_sorted table projection).eq_of_mem_iff
    (liveKeys_rowsOf_sorted table' projection) fun key => ?_
  rw [mem_liveKeys_rowsOf, mem_liveKeys_rowsOf, same, same']

structure ReadAlike (r r' : Replicated) : Prop where
  fetch : ∀ name ∈ tableNames, r.fetch name = r'.fetch name
  rowKeys : ∀ name ∈ tableNames, r.rowKeys name = r'.rowKeys name

theorem Shows.readAlike (shows : r.Shows cells) (shows' : r'.Shows cells) : r.ReadAlike r' where
  fetch := fun _ h => funext fun key => (shows.fetch_eq h key).trans (shows'.fetch_eq h key).symm
  rowKeys := fun _ h => funext fun projection => shows.rowKeys_eq shows' h projection

section Plans

variable (alike : r.ReadAlike r')
include alike

theorem ReadAlike.columns {name : String} (h : name ∈ tableNames) :
    r.columns name = r'.columns name := by
  funext key
  rw [Replicated.columns, Replicated.columns, alike.fetch name h]

theorem ReadAlike.columnNames {name : String} (h : name ∈ tableNames) :
    r.columnNames name = r'.columnNames name := by
  funext key
  rw [Replicated.columnNames, Replicated.columnNames, alike.columns h]

theorem ReadAlike.fetchNode : r.fetchNode = r'.fetchNode := by
  funext hostname
  rw [Replicated.fetchNode, Replicated.fetchNode, alike.fetch Layout.nodes (by decide)]

theorem ReadAlike.fetchCall : r.fetchCall = r'.fetchCall := by
  funext id
  rw [Replicated.fetchCall, Replicated.fetchCall, alike.fetch Layout.calls (by decide)]

theorem ReadAlike.fetchApplication : r.fetchApplication = r'.fetchApplication := by
  funext jid
  rw [Replicated.fetchApplication, Replicated.fetchApplication,
    alike.fetch Layout.applications (by decide)]

theorem ReadAlike.checkIp : r.checkIp = r'.checkIp := by
  funext ip hostname
  rw [Replicated.checkIp, Replicated.checkIp, alike.fetch Layout.ips (by decide)]

theorem ReadAlike.node? : r.node? = r'.node? := by
  funext hostname
  rw [Replicated.node?, Replicated.node?, alike.columns (by decide : Layout.nodes ∈ tableNames)]

theorem ReadAlike.addressesOf : r.addressesOf = r'.addressesOf := by
  funext jid
  rw [Replicated.addressesOf, Replicated.addressesOf, alike.rowKeys Layout.addresses (by decide)]

theorem ReadAlike.planStoreNode (node : Node) : planStoreNode node r = planStoreNode node r' := by
  rw [Replicated.planStoreNode, Replicated.planStoreNode, alike.fetchNode, alike.checkIp]

theorem ReadAlike.planUpdateNode (node : Node) :
    planUpdateNode node r = planUpdateNode node r' := by
  rw [Replicated.planUpdateNode, Replicated.planUpdateNode, alike.fetchNode, alike.checkIp]

theorem ReadAlike.planRemoveNode (hostname : String) :
    planRemoveNode hostname r = planRemoveNode hostname r' := by
  rw [Replicated.planRemoveNode, Replicated.planRemoveNode, alike.fetchNode]

theorem ReadAlike.planStoreCall (call : Call) : planStoreCall call r = planStoreCall call r' := by
  rw [Replicated.planStoreCall, Replicated.planStoreCall, alike.fetchNode, alike.fetchCall]

theorem ReadAlike.planRemoveCall (id : String) : planRemoveCall id r = planRemoveCall id r' := by
  rw [Replicated.planRemoveCall, Replicated.planRemoveCall, alike.fetchCall]

theorem ReadAlike.planRemoveClient (jid : String) :
    planRemoveClient jid r = planRemoveClient jid r' := by
  rw [Replicated.planRemoveClient, Replicated.planRemoveClient,
    alike.fetch Layout.clients (by decide)]

theorem ReadAlike.planStoreApplication (app : Application) :
    planStoreApplication app r = planStoreApplication app r' := by
  rw [Replicated.planStoreApplication, Replicated.planStoreApplication, alike.fetchApplication]

theorem ReadAlike.planRemoveApplication (jid : String) :
    planRemoveApplication jid r = planRemoveApplication jid r' := by
  rw [Replicated.planRemoveApplication, Replicated.planRemoveApplication, alike.fetchApplication,
    alike.addressesOf]

theorem ReadAlike.bindAddress (jid : String) : bindAddress jid r = bindAddress jid r' := by
  funext address
  rw [Replicated.bindAddress, Replicated.bindAddress, alike.fetch Layout.addresses (by decide)]

theorem ReadAlike.planStoreAddresses (addresses : List String) (jid : String) :
    planStoreAddresses addresses jid r = planStoreAddresses addresses jid r' := by
  rw [Replicated.planStoreAddresses, Replicated.planStoreAddresses, alike.fetchApplication,
    alike.bindAddress]

theorem ReadAlike.planRemoveAddress (address : String) :
    planRemoveAddress address r = planRemoveAddress address r' := by
  rw [Replicated.planRemoveAddress, Replicated.planRemoveAddress,
    alike.fetch Layout.addresses (by decide)]

end Plans

/-! ## One operation -/

theorem Shows.noteRead (shows : r.Shows cells) : r.noteRead.Shows cells := by
  obtain ⟨keyspace, stored, kept⟩ := shows.keyspace
  have switches := sameSwitches_noteRead r
  refine ⟨⟨keyspace, by simpa [Replicated.noteRead] using stored, kept⟩, ?_,
    switches.failReads.trans shows.reads, switches.failWrites.trans shows.writes⟩
  rw [contents_noteRead]
  exact shows.same

theorem Shows.advance (shows : r.Shows cells) (span : Duration) :
    (r.after (.advance span)).Shows cells :=
  ⟨shows.keyspace, shows.same, shows.reads, shows.writes⟩

/-- The results are the same, and the cells are those of the second directory. -/
def Echoes {α : Type} (left right : α × Replicated) : Prop :=
  left.1 = right.1 ∧ left.2.Shows right.2.contents

theorem Shows.echoes_look (shows : r.Shows d.contents) {α β : Type} (f : α → β) {x y : α}
    (same : x = y) : Echoes (f x, r.noteRead) (f y, d.noteRead) := by
  refine ⟨congrArg f same, ?_⟩
  rw [contents_noteRead]
  exact shows.noteRead

/-- One plan on both sides is refused on both, or its batch changes the cells of both alike. -/
theorem Shows.echoes_carryOut (shows : r.Shows d.contents) (live : d.Live) {α : Type}
    {plan : Replicated → Except DirectoryError (Plan α)} (same : plan r = plan d)
    (named : ∀ batch, Plans plan d batch → Contents.Within tableNames batch) :
    Echoes (carryOut plan r) (carryOut plan d) := by
  cases hp : plan d with
  | error e =>
      rw [carryOut_of_error hp, carryOut_of_error (same.trans hp)]
      exact shows.echoes_look id rfl
  | ok decided =>
      cases decided with
      | keep answer =>
          rw [carryOut_of_keep hp, carryOut_of_keep (same.trans hp)]
          exact shows.echoes_look id rfl
      | write batch context answer =>
          have within := named batch ⟨context, answer, hp⟩
          obtain ⟨d', hd, -, written⟩ := live.carryOut_of_write hp within
          obtain ⟨keyspace, stored, orderly, present⟩ := shows.keyspace
          obtain ⟨r₁, keyspace₁, hr, switches, stored₁, orderly₁, graces, written₁⟩ :=
            carryOut_of_present stored orderly (same.trans hp)
              (fun mutation hm => present _ (within mutation hm)) shows.writes
          rw [hd, hr]
          refine ⟨rfl, ⟨keyspace₁, stored₁, orderly₁, fun name h => ?_⟩, fun name h => ?_,
            switches.failReads.trans shows.reads, switches.failWrites.trans shows.writes⟩
          · have held := present name h
            rw [Std.ExtTreeMap.contains_eq_isSome_getElem?, ← Option.isSome_map] at held ⊢
            exact (congrArg Option.isSome (graces name)).trans held
          · rw [written, written₁]
            exact Contents.applyAll_congr batch (shows.same name h)

/-- An operation is answered as by the directory whose cells are shown. -/
theorem Shows.echoes_run (shows : r.Shows d.contents) (live : d.Live)
    (consistent : Consistent d.contents) (op : Operation) : Echoes (op.run r) (op.run d) := by
  obtain ⟨keyspace, ready⟩ := live.ready
  have alike := shows.readAlike live.shows
  have named : ∀ batch, d.Writes batch op → Contents.Within tableNames batch :=
    fun batch planned => (consistent.within ready planned).mono (tablesOf_subset op)
  have command {α : Type} {f : α → Answer} {plan : Replicated → Except DirectoryError (Plan α)}
      (same : plan r = plan d)
      (named : ∀ batch, Plans plan d batch → Contents.Within tableNames batch) :
      Echoes (Operation.answer f (carryOut plan r)) (Operation.answer f (carryOut plan d)) := by
    obtain ⟨result, after⟩ := shows.echoes_carryOut live same named
    exact ⟨congrArg (Except.map f) result, after⟩
  have looked : r.noteRead.Shows d.noteRead.contents := by
    rw [contents_noteRead]
    exact shows.noteRead
  cases op with
  | storeNode node => exact command (alike.planStoreNode node) named
  | updateNode node => exact command (alike.planUpdateNode node) named
  | removeNode hostname => exact command (alike.planRemoveNode hostname) named
  | storeCall call => exact command (alike.planStoreCall call) named
  | removeCall id => exact command (alike.planRemoveCall id) named
  | storeClient client => exact command rfl named
  | removeClient jid => exact command (alike.planRemoveClient jid) named
  | storeApplication app => exact command (alike.planStoreApplication app) named
  | removeApplication jid => exact command (alike.planRemoveApplication jid) named
  | storeAddress address jid => exact command (alike.planStoreAddresses [address] jid) named
  | storeAddresses addresses jid => exact command (alike.planStoreAddresses addresses jid) named
  | removeAddress address => exact command (alike.planRemoveAddress address) named
  | getNode hostname =>
      exact shows.echoes_look (Except.ok ∘ Answer.node) (congrFun alike.node? hostname)
  | findNode hostname =>
      exact shows.echoes_look (Except.map Answer.node) (congrFun alike.fetchNode hostname)
  | nodeForIp ip =>
      refine shows.echoes_look (Except.ok ∘ Answer.node) ?_
      simp only [Directory.nodeForIp?, alike.columns (by decide : Layout.ips ∈ tableNames),
        alike.node?]
  | nodesForPlatform platform =>
      refine shows.echoes_look (Except.ok ∘ Answer.nodes) ?_
      simp only [Directory.nodesForPlatform,
        alike.columnNames (by decide : Layout.platforms ∈ tableNames), alike.node?]
  | platforms =>
      exact shows.echoes_look (Except.ok ∘ Answer.texts)
        (congrFun (alike.rowKeys Layout.platforms (by decide)) _)
  | _ => exact ⟨run_eq_of_reads (fun name h _ => alike.fetch name h)
      (fun name h _ => alike.rowKeys name h) trivial, looked⟩

/-! ## Every history -/

/-- The answers of a history. Before each operation some time passes for the cluster. -/
def answers (r : Replicated) : List (Duration × Operation) → List (Except DirectoryError Answer)
  | [] => []
  | (span, op) :: rest =>
    let (first, r) := op.run (r.after (.advance span))
    first :: r.answers rest

/-- The answers are those of the directory whose cells are shown, for which no time passes. -/
theorem Shows.answers_eq (shows : r.Shows d.contents) (live : d.Live)
    (consistent : Consistent d.contents) (steps : List (Duration × Operation)) :
    r.answers steps = (Operation.runAll d (steps.map (·.2))).1 := by
  induction steps generalizing r d with
  | nil => rfl
  | cons step rest ih =>
      obtain ⟨span, op⟩ := step
      obtain ⟨result, after⟩ := (shows.advance span).echoes_run live consistent op
      obtain ⟨live', consistent'⟩ := live.run consistent op
      have later := ih after live' consistent'
      simp only [answers, List.map_cons, Operation.runAll, result, later]

/-- The keyspace holds the tables of the layout, with any grace periods and without rows, and
nothing is made to fail. -/
structure Unused (r : Replicated) : Prop where
  keyspace : ∃ keyspace, r.cluster.keyspaces[r.keyspace]? = some keyspace ∧
    (∀ name ∈ tableNames, keyspace.tables.contains name) ∧
    ∀ (name : String) (table : Table), keyspace.tables[name]? = some table → table.rows = ∅
  reads : r.cluster.failReads = false
  writes : r.cluster.failWrites = false

/-- A directory over a keyspace that has just been created. -/
theorem unused_ofDef {cluster : Cluster} {name : String} {definition : KeyspaceDef}
    (created : cluster.keyspaces[name]? = some (Keyspace.ofDef definition))
    (tables : ∀ table ∈ tableNames, table ∈ definition.tables.map (·.name))
    (reads : cluster.failReads = false) (writes : cluster.failWrites = false) :
    Unused ⟨cluster, name⟩ where
  keyspace := ⟨_, created, fun table h => Keyspace.contains_ofDef definition (tables table h),
    fun _ _ held => Keyspace.rows_ofDef definition held⟩
  reads := reads
  writes := writes

theorem Unused.shows (unused : r.Unused) (blank : ∀ table key, cells table key = ∅) :
    r.Shows cells := by
  obtain ⟨keyspace, stored, present, empty⟩ := unused.keyspace
  refine ⟨⟨keyspace, stored, fun name table held => ?_, present⟩, fun name h => ?_,
    unused.reads, unused.writes⟩
  · exact Table.Orderly.of_no_rows (empty name table held)
  · have held := present name h
    rw [Std.ExtTreeMap.contains_eq_isSome_getElem?, Option.isSome_iff_exists] at held
    obtain ⟨table, held⟩ := held
    funext key
    rw [contents_of_stored stored, Keyspace.contents_of_table held, blank]
    exact Table.cells_of_no_row (by simp [empty name table held])

/-- The same operations are answered alike by two directories that start without rows, whatever the
grace periods of their tables are and however much time passes on either side. -/
theorem tombstones_do_not_show (unused : r.Unused) (unused' : r'.Unused)
    {steps steps' : List (Duration × Operation)} (same : steps.map (·.2) = steps'.map (·.2)) :
    r.answers steps = r'.answers steps' := by
  -- Both are compared with a directory as it is opened, on which no time passes.
  have reached : Cluster.connect ({} : StoreSettings).host ({} : StoreSettings).port = .ok () := rfl
  obtain ⟨d, keyspace, -, ready, blank, switches⟩ :=
    openOn_of_connect (show ({} : Cluster).keyspaces = ∅ from rfl) reached
  have live : d.Live := ⟨⟨keyspace, ready⟩, switches.failReads, switches.failWrites⟩
  have consistent := consistent_empty blank
  rw [(unused.shows blank).answers_eq live consistent,
    (unused'.shows blank).answers_eq live consistent, same]

/-- An application and its address are removed and come back, with a grace period that ends between
the two on one side and without any grace period on the other. -/
theorem tombstones_do_not_show_of_application :
    let tables (grace : UInt32) : List TableDef := tableNames.map fun name => ⟨name, grace⟩
    let start (grace : UInt32) (clock : Nat) : Replicated :=
      ⟨{ keyspaces := (∅ : Std.ExtTreeMap String Keyspace).insert "rayo"
          (Keyspace.ofDef ⟨"rayo", "SimpleStrategy", 1, tables grace⟩), clock }, "rayo"⟩
    let app := Application.ofJid "app@example" "pstn"
    let steps (span : Duration) : List (Duration × Operation) :=
      [(0, .storeApplication app), (span, .storeAddresses ["1", "2"] "app@example"),
        (0, .removeApplication "app@example"), (span, .getApplication "app@example"),
        (span, .storeApplication app), (0, .addressesForApplication "app@example")]
    (start 10 0).Unused ∧ (start 0 7000).Unused ∧
      (start 10 0).answers (steps 6000) = (start 0 7000).answers (steps 0) := by
  intro tables start app steps
  have listed (grace : UInt32) : ∀ table ∈ tableNames, table ∈ (tables grace).map (·.name) := by
    intro table h
    rw [List.map_map]
    exact List.mem_map.2 ⟨table, h, rfl⟩
  have unused (grace : UInt32) (clock : Nat) : (start grace clock).Unused :=
    unused_ofDef (Std.ExtTreeMap.getElem?_insert_self) (listed grace) rfl rfl
  exact ⟨unused 10 0, unused 0 7000, tombstones_do_not_show (unused 10 0) (unused 0 7000) rfl⟩

end Switchboard.Replicated
