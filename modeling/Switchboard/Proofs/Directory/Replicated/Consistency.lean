import Switchboard.Columns.Runtime
import Switchboard.Proofs.Directory.Replicated.Applications
import Switchboard.Proofs.Directory.Replicated.Calls
import Switchboard.Proofs.Directory.Replicated.Clients
import Switchboard.Proofs.Directory.Replicated.History
import Switchboard.Proofs.Directory.Replicated.Opening

/-! # Tables that agree

The nodes, calls, applications and addresses in the tables are those of some records,
after every history and whatever fails on the way: each batch keeps the tables of its
own family in step and leaves the other families alone. Only the platform table may
hold entries that no record accounts for.
-/

namespace Switchboard

def Operation.LooksBeyondNodes : Operation → Prop
  | .getCall _ | .nodeForCall _ | .calls | .callsForClient _ | .callsForNode _
  | .getClient _ | .clientResources _ | .clients
  | .getApplication _ | .applicationForAddress _ | .addressesForApplication _ => True
  | _ => False

namespace Replicated

open Switchboard.Columns Switchboard.Maps Switchboard.Records
open Layout (readBack nodeCells callCells)

structure Consistent (contents : Contents) : Prop where
  nodes : ∃ nodes, NodesStored nodes contents
  listed : ∃ listed, contents.Lists Layout.platforms listed
  calls : ∃ calls, CallsStored calls contents
  applications : ∃ applications owners, ApplicationsStored applications owners contents

theorem consistent_empty {contents : Contents} (empty : ∀ table key, contents table key = ∅) :
    Consistent contents where
  nodes := ⟨∅, nodesStored_empty fun table _ => empty table⟩
  listed := by
    refine ⟨fun _ _ => False, fun key name value => ?_⟩
    rw [empty]
    simp
  calls := ⟨∅, callsStored_empty fun table _ => empty table⟩
  applications := ⟨∅, ∅, applicationsStored_empty fun table _ => empty table⟩

/-! ## Batches of one family -/

section Families

variable {contents : Contents} {batch : Batch}

variable {own : List String}

theorem Consistent.nodes_kept (h : Consistent contents) (within : Contents.Within own batch)
    (disjoint : ∀ table ∈ nodeTables, table ∉ own) :
    ∃ nodes, NodesStored nodes (contents.applyAll batch) := by
  obtain ⟨nodes, stored⟩ := h.nodes
  exact ⟨nodes, stored.of_contents_eq (within.keeps disjoint)⟩

theorem Consistent.listed_kept (h : Consistent contents) (within : Contents.Within own batch)
    (disjoint : ∀ table ∈ nodeTables, table ∉ own) :
    ∃ listed, (contents.applyAll batch).Lists Layout.platforms listed := by
  obtain ⟨listed, hlisted⟩ := h.listed
  have same := within.applyAll_eq contents (disjoint Layout.platforms (by decide))
  exact ⟨listed, hlisted.of_contents_eq same⟩

theorem Consistent.calls_kept (h : Consistent contents) (within : Contents.Within own batch)
    (disjoint : ∀ table ∈ callTables, table ∉ own) :
    ∃ calls, CallsStored calls (contents.applyAll batch) := by
  obtain ⟨calls, stored⟩ := h.calls
  exact ⟨calls, stored.of_contents_eq (within.keeps disjoint)⟩

theorem Consistent.applications_kept (h : Consistent contents)
    (within : Contents.Within own batch) (disjoint : ∀ table ∈ applicationTables, table ∉ own) :
    ∃ applications owners, ApplicationsStored applications owners (contents.applyAll batch) := by
  obtain ⟨applications, owners, stored⟩ := h.applications
  exact ⟨applications, owners, stored.of_contents_eq (within.keeps disjoint)⟩

theorem Consistent.of_nodes (h : Consistent contents) (within : Contents.Within nodeTables batch)
    {nodes : NodeMap} (stored : NodesStored nodes (contents.applyAll batch))
    {listed : String → String → Prop}
    (platforms : (contents.applyAll batch).Lists Layout.platforms listed) :
    Consistent (contents.applyAll batch) where
  nodes := ⟨nodes, stored⟩
  listed := ⟨listed, platforms⟩
  calls := h.calls_kept within (by decide)
  applications := h.applications_kept within (by decide)

theorem Consistent.of_calls (h : Consistent contents) (within : Contents.Within callTables batch)
    {calls : CallMap} (stored : CallsStored calls (contents.applyAll batch)) :
    Consistent (contents.applyAll batch) where
  nodes := h.nodes_kept within (by decide)
  listed := h.listed_kept within (by decide)
  calls := ⟨calls, stored⟩
  applications := h.applications_kept within (by decide)

theorem Consistent.of_applications (h : Consistent contents)
    (within : Contents.Within applicationTables batch) {applications : ApplicationMap}
    {owners : OwnerMap}
    (stored : ApplicationsStored applications owners (contents.applyAll batch)) :
    Consistent (contents.applyAll batch) where
  nodes := h.nodes_kept within (by decide)
  listed := h.listed_kept within (by decide)
  calls := h.calls_kept within (by decide)
  applications := ⟨applications, owners, stored⟩

theorem Consistent.of_clients (h : Consistent contents)
    (within : Contents.Within clientTables batch) : Consistent (contents.applyAll batch) where
  nodes := h.nodes_kept within (by decide)
  listed := h.listed_kept within (by decide)
  calls := h.calls_kept within (by decide)
  applications := h.applications_kept within (by decide)

end Families

/-! ## Every batch -/

/-- The tables of the family that an operation belongs to. -/
def tablesOf : Operation → List String
  | .storeNode _ | .updateNode _ | .removeNode _ => nodeTables
  | .storeCall _ | .removeCall _ => callTables
  | .storeClient _ | .removeClient _ => clientTables
  | _ => applicationTables

theorem tablesOf_subset (op : Operation) : tablesOf op ⊆ tableNames := by
  cases op with
  | storeNode | updateNode | removeNode => exact nodeTables_subset
  | storeCall | removeCall => exact callTables_subset
  | storeClient | removeClient => exact clientTables_subset
  | _ => exact applicationTables_subset

variable {r : Replicated} {keyspace : Keyspace} {op : Operation} {batch : Batch}

/-- The batch of an operation stays within the tables of its family. -/
theorem Consistent.within (h : Consistent r.contents) (ready : r.Ready keyspace)
    (planned : r.Writes batch op) : Contents.Within (tablesOf op) batch := by
  obtain ⟨nodes, nodesStored⟩ := h.nodes
  obtain ⟨calls, callsStored⟩ := h.calls
  obtain ⟨applications, owners, appsStored⟩ := h.applications
  cases op with
  | storeNode node =>
      obtain ⟨-, -, rfl⟩ := plans_storeNode ready nodesStored planned
      exact within_insertNode node
  | updateNode node =>
      obtain ⟨previous, -, -, rfl⟩ := plans_updateNode ready nodesStored planned
      exact within_replaceNode (readBack previous) node
  | removeNode hostname =>
      obtain ⟨node, -, rfl⟩ := plans_removeNode ready nodesStored planned
      exact within_dropNode (readBack node)
  | storeCall call =>
      obtain ⟨-, rfl⟩ := plans_storeCall ready nodesStored callsStored planned
      exact within_replaceCall calls[call.id]? call
  | removeCall id =>
      obtain ⟨call, -, rfl⟩ := plans_removeCall ready callsStored planned
      exact within_dropCall call
  | storeClient client => exact within_planStoreClient planned
  | removeClient jid => exact within_planRemoveClient planned
  | storeApplication app =>
      obtain ⟨-, rfl⟩ := plans_storeApplication ready appsStored planned
      exact (within_insertApplication app).mono
        (show [Layout.applications] ⊆ applicationTables by decide)
  | removeApplication jid =>
      obtain ⟨addresses, -, rfl⟩ := plans_removeApplication ready appsStored planned
      exact within_dropApplication jid addresses
  | storeAddress address jid => exact (appsStored.rebound ready planned).1
  | storeAddresses addresses jid => exact (appsStored.rebound ready planned).1
  | removeAddress address =>
      have hbatch := plans_removeAddress ready appsStored planned
      subst hbatch
      exact within_unbindAddress address
  | _ => exact planned.elim

/-- The batch of an operation keeps the tables consistent. -/
theorem Consistent.applyAll (h : Consistent r.contents) (ready : r.Ready keyspace)
    (planned : r.Writes batch op) : Consistent (r.contents.applyAll batch) := by
  have within := h.within ready planned
  obtain ⟨nodes, nodesStored⟩ := h.nodes
  obtain ⟨listed, hlisted⟩ := h.listed
  obtain ⟨calls, callsStored⟩ := h.calls
  obtain ⟨applications, owners, appsStored⟩ := h.applications
  cases op with
  | storeNode node =>
      obtain ⟨fresh, free, rfl⟩ := plans_storeNode ready nodesStored planned
      have stored := nodesStored.create fresh free
      exact h.of_nodes within stored (lists_insertNode hlisted node)
  | updateNode node =>
      obtain ⟨previous, known, free, rfl⟩ := plans_updateNode ready nodesStored planned
      have stored := nodesStored.replace known free
      exact h.of_nodes within stored (lists_replaceNode hlisted (readBack previous) node)
  | removeNode hostname =>
      obtain ⟨node, known, rfl⟩ := plans_removeNode ready nodesStored planned
      rw [← nodesStored.keyed hostname node known] at known
      have stored := nodesStored.remove known
      exact h.of_nodes within stored (lists_dropNode hlisted (readBack node))
  | storeCall call =>
      obtain ⟨-, rfl⟩ := plans_storeCall ready nodesStored callsStored planned
      exact h.of_calls within (callsStored.write call)
  | removeCall id =>
      obtain ⟨call, known, rfl⟩ := plans_removeCall ready callsStored planned
      rw [← callsStored.keyed id call known] at known
      exact h.of_calls within (callsStored.remove known)
  | storeClient client => exact h.of_clients within
  | removeClient jid => exact h.of_clients within
  | storeApplication app =>
      obtain ⟨fresh, rfl⟩ := plans_storeApplication ready appsStored planned
      exact h.of_applications within (appsStored.create fresh)
  | removeApplication jid =>
      obtain ⟨addresses, bound, rfl⟩ := plans_removeApplication ready appsStored planned
      have removed := appsStored.remove bound (boundTo_unboundFrom owners jid)
      exact h.of_applications within removed
  | storeAddress address jid =>
      exact h.of_applications within (appsStored.rebound ready planned).2
  | storeAddresses addresses jid =>
      exact h.of_applications within (appsStored.rebound ready planned).2
  | removeAddress address =>
      have hbatch := plans_removeAddress ready appsStored planned
      subst hbatch
      exact h.of_applications within (appsStored.unbind address)
  | _ => exact planned.elim

theorem kept_consistent : Kept Consistent fun _ => True := by
  intro r keyspace op batch ready h _ planned
  exact ⟨(h.within ready planned).mono (tablesOf_subset op), h.applyAll ready planned⟩

/-- Without failures every operation leaves the directory readable, writable and consistent. -/
theorem Live.run (live : r.Live) (consistent : Consistent r.contents) (op : Operation) :
    (op.run r).2.Live ∧ Consistent (op.run r).2.contents := by
  obtain ⟨keyspace, ready⟩ := live.ready
  obtain ⟨ready', same, consistent'⟩ : (∃ keyspace', (op.run r).2.Ready keyspace') ∧
      r.SameSwitches (op.run r).2 ∧ Consistent (op.run r).2.contents :=
    kept_consistent.run ready consistent trivial
  exact ⟨⟨ready', same.failReads.trans live.reads, same.failWrites.trans live.writes⟩, consistent'⟩

/-! ## Look-ups beyond the nodes -/

section Beyond

variable {r r' : Replicated}
  (fetch : ∀ name ∈ tableNames, name ∉ nodeTables → r.fetch name = r'.fetch name)
  (keys : ∀ name ∈ tableNames, name ∉ nodeTables → r.rowKeys name = r'.rowKeys name)
include fetch keys

/-- Look-ups beyond the nodes read other tables than those of nodes. -/
theorem run_eq_of_reads {op : Operation} (beyond : op.LooksBeyondNodes) :
    (op.run r).1 = (op.run r').1 := by
  have columns (name : String) (h : name ∈ tableNames) (other : name ∉ nodeTables) :
      r.columns name = r'.columns name := by
    funext key
    rw [Replicated.columns, Replicated.columns, fetch name h other]
  have names (name : String) (h : name ∈ tableNames) (other : name ∉ nodeTables) :
      r.columnNames name = r'.columnNames name := by
    funext key
    rw [columnNames, columnNames, columns name h other]
  have applications : r.application? = r'.application? := by
    funext jid
    rw [application?, application?, columns Layout.applications (by decide) (by decide)]
  cases op with
  | getCall | nodeForCall =>
      simp only [Operation.run, Operation.look, Directory.nodeForCall?, Directory.getCall?,
        columns Layout.calls (by decide) (by decide)]
  | calls =>
      simp only [Operation.run, Operation.look, Directory.calls,
        keys Layout.calls (by decide) (by decide)]
  | callsForClient jid =>
      simp only [Operation.run, Operation.look, Directory.callsForClient,
        names Layout.clientCalls (by decide) (by decide)]
  | callsForNode hostname =>
      simp only [Operation.run, Operation.look, Directory.callsForNode,
        names Layout.nodeCalls (by decide) (by decide)]
  | getClient jid =>
      simp only [Operation.run, Operation.look, Directory.getClient?,
        columns Layout.clients (by decide) (by decide)]
  | clientResources jid =>
      simp only [Operation.run, Operation.look, Directory.clientResources,
        names Layout.clients (by decide) (by decide)]
  | clients =>
      simp only [Operation.run, Operation.look, Directory.clients,
        keys Layout.clients (by decide) (by decide)]
  | getApplication jid =>
      simp only [Operation.run, Operation.look, Directory.getApplication?, applications]
  | applicationForAddress address =>
      simp only [Operation.run, Operation.look, Directory.applicationForAddress?, applications,
        columns Layout.addresses (by decide) (by decide)]
  | addressesForApplication jid =>
      simp only [Operation.run, Operation.look, Directory.addressesForApplication, addressesOf,
        keys Layout.addresses (by decide) (by decide)]
  | _ => exact beyond.elim

end Beyond

/-! ## What the tables say about each other -/

structure Agree (keyspace : Keyspace) : Prop where
  tables : ∀ table ∈ Layout.tables,
    keyspace.grace? table.name = some (table.grace.nanos)
  clientCalls : ∀ client id,
    (∃ value, (keyspace.contents Layout.clientCalls client)[id]? = some value) ↔
      (keyspace.contents Layout.calls id)["jid"]? = some client
  nodeCalls : ∀ hostname id,
    (∃ value, (keyspace.contents Layout.nodeCalls hostname)[id]? = some value) ↔
      (keyspace.contents Layout.calls id)["node"]? = some hostname
  ips : ∀ ip hostname, (keyspace.contents Layout.ips ip)["node"]? = some hostname ↔
    (keyspace.contents Layout.nodes hostname)["ip"]? = some ip
  ipsUnique : ∀ ip hostname hostname',
    (keyspace.contents Layout.nodes hostname)["ip"]? = some ip →
      (keyspace.contents Layout.nodes hostname')["ip"]? = some ip → hostname = hostname'
  /-- The row of an address is the one column of a present application. -/
  addresses : ∀ table : Table, keyspace.tables[Layout.addresses]? = some table →
    ∀ (address : String) (row : StoredRow), table.rows[address]? = some row →
      ∃ jid, row.columns = (∅ : Cells).insert jid jid ∧
        keyspace.contents Layout.applications jid ≠ ∅
  /-- Without a grace period no row is left without columns. -/
  live : ∀ (name : String) (table : Table), keyspace.tables[name]? = some table →
    table.grace = 0 → ∀ (key : String) (row : StoredRow), table.rows[key]? = some row →
      row.columns ≠ ∅

section Agree

variable {contents : Contents}

theorem call_jid_iff {calls : CallMap} (stored : CallsStored calls contents) (id client : String) :
    (contents Layout.calls id)["jid"]? = some client ↔ OfClient calls client id := by
  rw [stored.rows, OfClient, At]
  cases calls[id]? with
  | none => simp
  | some call =>
      have hcell : (callCells call)["jid"]? = some call.client := by
        simp only [callCells, Maps.getElem?_insert, String.reduceEq, if_true, if_false]
      simp [hcell]

theorem call_node_iff {calls : CallMap} (stored : CallsStored calls contents)
    (id hostname : String) :
    (contents Layout.calls id)["node"]? = some hostname ↔ OnNode calls hostname id := by
  rw [stored.rows, OnNode, At]
  cases calls[id]? with
  | none => simp
  | some call => simp [callCells]

theorem node_ip_iff {nodes : NodeMap} (stored : NodesStored nodes contents)
    (hostname ip : String) :
    (contents Layout.nodes hostname)["ip"]? = some ip ↔ HoldsIp nodes ip hostname := by
  rw [stored.rows, HoldsIp, At]
  cases nodes[hostname]? with
  | none => simp
  | some node =>
      have hcell : (nodeCells node)["ip"]? = some node.ipAddress := by
        simp only [nodeCells, Layout.writeNode, Maps.getElem?_insert, String.reduceEq, if_true,
          if_false]
      simp [hcell]

end Agree

theorem Consistent.agree {keyspace : Keyspace} (h : Consistent keyspace.contents)
    (orderly : keyspace.Orderly)
    (graces : ∀ table ∈ Layout.tables,
      keyspace.grace? table.name = some (table.grace.nanos)) :
    Agree keyspace := by
  obtain ⟨nodes, nodesStored⟩ := h.nodes
  obtain ⟨calls, callsStored⟩ := h.calls
  obtain ⟨applications, owners, appsStored⟩ := h.applications
  have grace : keyspace.grace? Layout.addresses = some 0 :=
    graces ⟨Layout.addresses, 0⟩ (by decide)
  refine ⟨graces, ?_, ?_, ?_, ?_, ?_, ?_⟩
  · intro client id
    rw [callsStored.byClient.exists_iff, call_jid_iff callsStored]
  · intro hostname id
    rw [callsStored.byNode.exists_iff, call_node_iff callsStored]
  · intro ip hostname
    rw [node_ip_iff nodesStored]
    simpa using nodesStored.ips ip "node" hostname
  · intro ip hostname hostname' hip hip'
    rw [node_ip_iff nodesStored] at hip hip'
    exact nodesStored.ipsUnique ip hostname hostname' hip hip'
  · intro table htable address row hrow
    have hgrace : table.grace = 0 := by simpa [Keyspace.grace?, htable] using grace
    have live := (orderly Layout.addresses table htable).live_of_no_grace hgrace hrow
    have hcells : keyspace.contents Layout.addresses address = row.columns := by
      rw [Keyspace.contents_of_table htable, Table.cells_of_row hrow]
    rw [← hcells] at live
    obtain ⟨jid, bound⟩ := (appsStored.bound.ne_empty_iff address).1 live
    refine ⟨jid, ?_, ?_⟩
    · rw [← hcells, appsStored.addressCells_eq bound]
    · have present := appsStored.present address jid bound
      rw [appsStored.rows]
      cases known : applications[jid]? with
      | none =>
          rw [known] at present
          cases present
      | some app => exact Layout.applicationCells_ne_empty app
  · intro name table htable hgrace key row hrow
    exact (orderly name table htable).live_of_no_grace hgrace hrow

theorem Ready.agree {r : Replicated} {keyspace : Keyspace} (ready : r.Ready keyspace)
    (h : Consistent r.contents) : Agree keyspace := by
  rw [ready.contents_eq] at h
  exact h.agree ready.orderly ready.graces

/-- The tables of a directory that was opened on an empty cluster agree after every history, with
reads and writes failing at any time. -/
theorem tables_agree_after_history [Timer] {settings : StoreSettings}
    {cluster cluster' : Cluster} {r : Replicated} (empty : cluster.keyspaces = ∅)
    (opened : openOn settings cluster = (.ok r, cluster')) (events : List Event) :
    ∃ keyspace,
      (r.afterAll events).cluster.keyspaces[(r.afterAll events).keyspace]? = some keyspace ∧
        Agree keyspace := by
  obtain ⟨⟨keyspace, ready⟩, hempty, -⟩ := ready_of_openOn empty opened
  obtain ⟨⟨keyspace', ready'⟩, h⟩ :=
    kept_consistent.afterAll ready (consistent_empty hempty) fun op _ => trivial
  exact ⟨keyspace', ready'.stored, ready'.agree h⟩

/-- A history in which a write fails between a node, its call and the removal of the node. -/
theorem tables_agree_after_failing_write :
    let events : List Event := [
      .operation (.storeNode ⟨"n", "10.0.0.1", ∅, 1, 1, 0, false⟩),
      .operation (.storeCall ⟨"c", "alice", "n"⟩), .failWrites true,
      .operation (.removeCall "c"), .failWrites false, .advance 1000,
      .operation (.removeNode "n")]
    ∃ r cluster keyspace, openOn {} {} = (.ok r, cluster) ∧
      (r.afterAll events).cluster.keyspaces[(r.afterAll events).keyspace]? = some keyspace ∧
        Agree keyspace := by
  intro events
  have empty : ({} : Cluster).keyspaces = ∅ := rfl
  have reached : Cluster.connect ({} : StoreSettings).host ({} : StoreSettings).port = .ok () := rfl
  obtain ⟨r, -, opened, -⟩ := openOn_of_connect empty reached
  obtain ⟨keyspace, stored, agree⟩ := tables_agree_after_history empty opened events
  exact ⟨r, r.cluster, keyspace, opened, stored, agree⟩

end Replicated

end Switchboard
