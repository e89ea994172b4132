import Switchboard.Proofs.Directory.Memory.Clients
import Switchboard.Proofs.Directory.Unfailing

/-! # Stored clients of either directory

A client that is stored is found under its JID until it is removed under that JID. In memory
it stands under the JID itself, on a cluster under the two parts that the JID is cut into.
-/

namespace Switchboard

open Switchboard.Columns Switchboard.Maps Switchboard.Records
open Replicated (clientTables Consistent Plans dropClient)
open RawJid (NoBareSlash bare resource)

/-! ## On a cluster -/

namespace Replicated

variable {r : Replicated} {keyspace : Keyspace}

/-- A client is shown when there is a cell under the parts of its JID. -/
theorem getClient?_eq (ready : r.Ready keyspace) (reads : r.cluster.failReads = false)
    (jid : String) :
    Directory.getClient? jid r =
      ((r.contents Layout.clients (bare jid))[resource jid]?).map (Client.ofJid jid) := by
  have columns := ready.columns_eq (show Layout.clients ∈ tableNames by decide) reads (bare jid)
  change Layout.client? jid (r.columns Layout.clients (bare jid)) = _
  rw [columns, Layout.client?, column?_columns]

theorem planStoreClient_eq (client : Client) (r : Replicated) :
    planStoreClient client r = .ok (.write
      [.insert Layout.clients client.bareJid client.resource client.platform]
      s!"Could not store client [{client.jid}]" client) := rfl

/-- A client is written without any read. -/
theorem storeClient_of_writes (ready : r.Ready keyspace) (writes : r.cluster.failWrites = false)
    (client : Client) :
    ∃ r' keyspace', carryOut (planStoreClient client) r = (.ok client, r') ∧
      r'.Ready keyspace' ∧ r.SameSwitches r' ∧
      (r'.contents Layout.clients client.bareJid)[client.resource]? = some client.platform := by
  have named := (within_insertClient client).mono clientTables_subset
  obtain ⟨r', keyspace', hrun, ready', same, hcontents⟩ :=
    ready.carryOut_of_write (planStoreClient_eq client r) named writes
  refine ⟨r', keyspace', hrun, ready', same, ?_⟩
  rw [hcontents, Contents.applyAll_cons, Contents.applyAll_nil, Contents.getElem?_apply_insert,
    if_pos ⟨rfl, rfl⟩]

theorem storeClient_of_failWrites (ready : r.Ready keyspace)
    (fails : r.cluster.failWrites = true) (client : Client) :
    ∃ e, (carryOut (planStoreClient client) r).1 = .error e := by
  have named := (within_insertClient client).mono clientTables_subset
  rw [ready.carryOut_of_failWrites (planStoreClient_eq client r) named fails]
  exact ⟨_, rfl⟩

theorem planRemoveClient_of_none (ready : r.Ready keyspace) (reads : r.cluster.failReads = false)
    {jid : String} (absent : Directory.getClient? jid r = none) :
    planRemoveClient jid r = .error (.notFound .client jid) := by
  rw [getClient?_eq ready reads] at absent
  have unread : Layout.client? jid (r.contents Layout.clients (bare jid)).columns = none := by
    rw [Layout.client?, column?_columns, absent]
  simp only [planRemoveClient, ready.fetch_of_reads (by decide : Layout.clients ∈ tableNames) reads,
    ok_bind, unread]
  rfl

theorem planRemoveClient_of_some (ready : r.Ready keyspace) (reads : r.cluster.failReads = false)
    {jid : String} {client : Client} (known : Directory.getClient? jid r = some client) :
    planRemoveClient jid r = .ok (.write (dropClient r.contents jid)
      s!"Could not remove client [{jid}]" client) := by
  rw [getClient?_eq ready reads] at known
  have read : Layout.client? jid (r.contents Layout.clients (bare jid)).columns = some client := by
    rw [Layout.client?, column?_columns, known]
  simp only [planRemoveClient, ready.fetch_of_reads (by decide : Layout.clients ∈ tableNames) reads,
    ok_bind, read]
  rfl

theorem exists_cell_of_getClient? (ready : r.Ready keyspace) (reads : r.cluster.failReads = false)
    {jid : String} {client : Client} (known : Directory.getClient? jid r = some client) :
    ∃ platform, (r.contents Layout.clients (bare jid))[resource jid]? = some platform := by
  rw [getClient?_eq ready reads, Option.map_eq_some_iff] at known
  obtain ⟨platform, cell, -⟩ := known
  exact ⟨platform, cell⟩

/-- The batch that removes a client takes its cell away and no other. -/
theorem applyAll_removeClient (ready : r.Ready keyspace) {jid : String} {batch : Batch}
    (planned : Plans (planRemoveClient jid) r batch) :
    r.contents.applyAll batch =
      r.contents.apply (.deleteColumn Layout.clients (bare jid) (resource jid)) := by
  have first (e : DirectoryError) (he : r.fetch Layout.clients (bare jid) = .error e) :
      planRemoveClient jid r = .error e := by
    rw [planRemoveClient, he]
    rfl
  have reads := ready.reads_of_plans (by decide) first planned
  obtain ⟨context, answer, hplan⟩ := planned
  cases known : Directory.getClient? jid r with
  | none =>
      rw [planRemoveClient_of_none ready reads known] at hplan
      cases hplan
  | some client =>
      obtain ⟨platform, cell⟩ := exists_cell_of_getClient? ready reads known
      rw [planRemoveClient_of_some ready reads known] at hplan
      cases hplan
      exact applyAll_dropClient cell

/-- A cell of the client table is there because it was there or a client has just been stored. -/
theorem clientCell_run (ready : r.Ready keyspace) (consistent : Consistent r.contents)
    (op : Operation) {row name platform : String}
    (cell : ((op.run r).2.contents Layout.clients row)[name]? = some platform) :
    (∃ earlier, (r.contents Layout.clients row)[name]? = some earlier) ∨
      ∃ client, op = .storeClient client ∧ client.bareJid = row ∧ client.resource = name := by
  obtain ⟨-, -, hcontents⟩ := follows_run ready op fun batch planned =>
    (consistent.within ready planned).mono (tablesOf_subset op)
  rcases hcontents with unchanged | ⟨batch, planned, written⟩
  · rw [unchanged] at cell
    exact .inl ⟨platform, cell⟩
  have within := consistent.within ready planned
  rw [written] at cell
  cases op with
  | storeClient client =>
      rw [plans_storeClient planned, Contents.applyAll_cons, Contents.applyAll_nil,
        Contents.getElem?_apply_insert] at cell
      split at cell
      · next parts => exact .inr ⟨client, rfl, parts⟩
      · exact .inl ⟨platform, cell⟩
  | removeClient jid =>
      rw [applyAll_removeClient ready planned, Contents.getElem?_apply_deleteColumn] at cell
      split at cell
      · cases cell
      · exact .inl ⟨platform, cell⟩
  | storeNode | updateNode | removeNode =>
      rw [within.applyAll_eq r.contents (show Layout.clients ∉ nodeTables by decide)] at cell
      exact .inl ⟨platform, cell⟩
  | storeCall | removeCall =>
      rw [within.applyAll_eq r.contents (show Layout.clients ∉ callTables by decide)] at cell
      exact .inl ⟨platform, cell⟩
  | storeApplication | removeApplication | storeAddress | storeAddresses | removeAddress =>
      rw [within.applyAll_eq r.contents (show Layout.clients ∉ applicationTables by decide)] at cell
      exact .inl ⟨platform, cell⟩
  | _ => exact planned.elim

end Replicated

/-! ## Either kind -/

namespace Backend

variable {b : Backend} {jid platform : String}

theorem storeClient_replicated (client : Client) (r : Replicated) :
    Directory.storeClient client (replicated r) =
      ((Replicated.carryOut (Replicated.planStoreClient client) r).1,
        replicated (Replicated.carryOut (Replicated.planStoreClient client) r).2) := rfl

theorem removeClient_replicated (jid : String) (r : Replicated) :
    Directory.removeClient jid (replicated r) =
      ((Replicated.carryOut (Replicated.planRemoveClient jid) r).1,
        replicated (Replicated.carryOut (Replicated.planRemoveClient jid) r).2) := rfl

theorem removeClient_memory (jid : String) (m : Memory) :
    Directory.removeClient jid (memory m) =
      ((Memory.Applications.removeClient jid m.applications).1,
        memory { m with
          applications := (Memory.Applications.removeClient jid m.applications).2 }) := rfl

/-- Resources are listed under the bare part of any JID. -/
theorem clientResources_bare (b : Backend) (jid : String) :
    Directory.clientResources (bare jid) b = Directory.clientResources jid b := by
  cases b with
  | memory m =>
      change m.applications.resources.values (bare (bare jid)) = _
      rw [RawJid.bare_bare]
      rfl
  | replicated r =>
      change r.columnNames Replicated.Layout.clients (bare (bare jid)) = _
      rw [RawJid.bare_bare]
      rfl

/-- A client that is stored is found under its JID, and its resource is listed. -/
theorem InOrder.storeClient (inOrder : b.InOrder) (jid platform : String) :
    let (result, b') := Directory.storeClient (Client.ofJid jid platform) b
    result = .ok (.ofJid jid platform) ∧
      Directory.getClient? jid b' = some (.ofJid jid platform) ∧
      resource jid ∈ Directory.clientResources jid b' := by
  cases b with
  | memory m =>
      refine ⟨rfl, Std.ExtTreeMap.getElem?_insert_self, ?_⟩
      change resource jid ∈
        (m.applications.resources.attach (bare jid) (resource jid)).values (bare jid)
      rw [Listing.values_attach, if_pos rfl, Listing.mem_pushUnique]
      exact .inr rfl
  | replicated r =>
      obtain ⟨live, -⟩ := inOrder
      obtain ⟨keyspace, ready⟩ := live.ready
      obtain ⟨r', keyspace', hrun, ready', same, cell⟩ :=
        Replicated.storeClient_of_writes ready live.writes (.ofJid jid platform)
      have reads' := same.failReads.trans live.reads
      rw [storeClient_replicated, hrun]
      refine ⟨rfl, ?_, (ready'.mem_columnNames (by decide) reads' _ _).2 ⟨platform, cell⟩⟩
      change Directory.getClient? jid r' = _
      rw [Replicated.getClient?_eq ready' reads']
      exact congrArg (Option.map (Client.ofJid jid)) cell

/-- A client that is found under a JID is removed under it. -/
theorem InOrder.removeClient_of_some (inOrder : b.InOrder) {client : Client}
    (known : Directory.getClient? jid b = some client) :
    let (result, b') := Directory.removeClient jid b
    result = .ok client ∧ Directory.getClient? jid b' = none := by
  cases b with
  | memory m =>
      have found : m.applications.clients[jid]? = some client := known
      rw [removeClient_memory, Memory.Applications.removeClient, found]
      exact ⟨rfl, Std.ExtTreeMap.getElem?_erase_self⟩
  | replicated r =>
      obtain ⟨live, -⟩ := inOrder
      obtain ⟨keyspace, ready⟩ := live.ready
      have planned := Replicated.planRemoveClient_of_some ready live.reads known
      have named : Contents.Within Replicated.tableNames (dropClient r.contents jid) :=
        (Replicated.within_dropClient r.contents jid).mono Replicated.clientTables_subset
      obtain ⟨r', hrun, live', hcontents⟩ := live.carryOut_of_write planned named
      obtain ⟨keyspace', ready'⟩ := live'.ready
      rw [removeClient_replicated, hrun]
      refine ⟨rfl, ?_⟩
      change Directory.getClient? jid r' = none
      rw [Replicated.getClient?_eq ready' live'.reads, hcontents,
        Replicated.applyAll_removeClient ready ⟨_, _, planned⟩,
        Contents.getElem?_apply_deleteColumn, if_pos ⟨rfl, rfl⟩]
      rfl

theorem InOrder.removeClient_of_none (inOrder : b.InOrder)
    (absent : Directory.getClient? jid b = none) :
    (Directory.removeClient jid b).1 = .error (.notFound .client jid) := by
  cases b with
  | memory m =>
      have missing : m.applications.clients[jid]? = none := absent
      rw [removeClient_memory, Memory.Applications.removeClient, missing]
  | replicated r =>
      obtain ⟨live, -⟩ := inOrder
      obtain ⟨keyspace, ready⟩ := live.ready
      have planned := Replicated.planRemoveClient_of_none ready live.reads absent
      rw [removeClient_replicated, Replicated.carryOut_of_error planned]

/-- A client is found because it was found before or one of its parts has just been stored. -/
theorem InOrder.getClient?_run (inOrder : b.InOrder) {op : Operation}
    (makes : Memory.MakesClients op) (found : Directory.getClient? jid (op.run b).2 ≠ none) :
    Directory.getClient? jid b ≠ none ∨
      ∃ client, op = .storeClient client ∧ client.bareJid = bare jid ∧
        client.resource = resource jid := by
  obtain ⟨client, known⟩ := Option.ne_none_iff_exists'.1 found
  cases b with
  | memory m =>
      rw [run_memory] at known
      have change := Memory.clientChange_run m op
      rcases Memory.Applications.stored_change change known with earlier | ⟨rfl, rfl⟩
      · refine .inl fun absent => ?_
        rw [show m.applications.clients[jid]? = none from absent] at earlier
        cases earlier
      · refine .inr ⟨client, rfl, ?_, ?_⟩
        · rw [show client = _ from makes, Client.ofJid]
        · rw [show client = _ from makes, Client.ofJid]
  | replicated r =>
      obtain ⟨live, consistent⟩ := inOrder
      obtain ⟨keyspace, ready⟩ := live.ready
      obtain ⟨live', -⟩ := live.run consistent op
      obtain ⟨keyspace', ready'⟩ := live'.ready
      rw [run_replicated] at known
      obtain ⟨platform, cell⟩ := Replicated.exists_cell_of_getClient? ready' live'.reads known
      rcases Replicated.clientCell_run ready consistent op cell with ⟨earlier, hcell⟩ | stored
      · refine .inl ?_
        change Directory.getClient? jid r ≠ none
        rw [Replicated.getClient?_eq ready live.reads, hcell]
        simp
      · exact .inr stored

end Backend

end Switchboard
