import Switchboard.Proofs.Directory.Failing
import Switchboard.Proofs.Directory.Listings
import Switchboard.Proofs.Directory.Memory.Removals
import Switchboard.Proofs.Directory.NodeCommands

/-! # Writing a node back as it was found

A node that was found can be written back with its IP address and its platforms as long as
reads and writes work, since nobody else holds the address. Afterwards it is found as it was
written, and everything else is found as it was.
-/

namespace Switchboard

open Records (NodeMap)
open Replicated (NodesStored nodeTables tableNames)
open Replicated.Layout (readBack)
open Memory (KeepsIndices)

/-! ## In memory -/

/-- Look-ups beyond the nodes use no record of a node. -/
theorem Memory.run_eq_of_records {m m' : Memory} (calls : m'.calls = m.calls)
    (applications : m'.applications = m.applications) {op : Operation}
    (beyond : op.LooksBeyondNodes) : (op.run m').1 = (op.run m).1 := by
  cases op with
  | getCall | nodeForCall | calls | callsForClient | callsForNode =>
      simp only [Operation.run, Operation.look, Directory.getCall?, Directory.nodeForCall?,
        Directory.calls, Directory.callsForClient, Directory.callsForNode, calls]
  | getClient | clientResources | clients | getApplication | applicationForAddress
  | addressesForApplication =>
      simp only [Operation.run, Operation.look, Directory.getClient?, Directory.clientResources,
        Directory.clients, Directory.getApplication?, Directory.applicationForAddress?,
        Directory.addressesForApplication, applications]
  | _ => exact beyond.elim

/-! ## On a cluster -/

namespace Replicated

open Columns

variable {r r' : Replicated} {keyspace keyspace' : Keyspace} {nodes : NodeMap}

theorem nodeForIp?_eq_some_iff (ready : r.Ready keyspace) (reads : r.cluster.failReads = false)
    (stored : NodesStored nodes r.contents) (ip : String) (node : Node) :
    Directory.nodeForIp? ip r = some node ↔
      r.node? node.hostname = some node ∧ node.ipAddress = ip := by
  have owner : column? (r.columns Layout.ips ip) "node" = (r.contents Layout.ips ip)["node"]? := by
    rw [ready.columns_eq (by decide) reads, column?_columns]
  change (column? (r.columns Layout.ips ip) "node").bind r.node? = some node ↔ _
  rw [owner, Option.bind_eq_some_iff]
  constructor
  · rintro ⟨hostname, held, found⟩
    obtain rfl := hostname_of_node? found
    refine ⟨found, ?_⟩
    obtain ⟨record, known, hip⟩ := (ipOwner_eq_some_iff stored ip _).1 held
    rw [node?_eq ready reads stored, known] at found
    cases found
    exact hip
  · rintro ⟨found, rfl⟩
    refine ⟨node.hostname, (ipOwner_eq_some_iff stored _ _).2 ?_, found⟩
    rw [node?_eq ready reads stored, Option.map_eq_some_iff] at found
    obtain ⟨record, known, shown⟩ := found
    have same : (readBack record).ipAddress = node.ipAddress := congrArg Node.ipAddress shown
    exact ⟨record, known, same⟩

/-- A table with the same cells lists the same rows. -/
theorem rowKeys_eq_of_contents (ready : r.Ready keyspace) (ready' : r'.Ready keyspace')
    (reads : r.cluster.failReads = false) (reads' : r'.cluster.failReads = false) {name : String}
    (h : name ∈ tableNames) (same : r'.contents name = r.contents name)
    (projection : Projection) : r'.rowKeys name projection = r.rowKeys name projection := by
  refine (ready'.rowKeys_sorted h reads' projection).eq_of_mem_iff
    (ready.rowKeys_sorted h reads projection) fun key => ?_
  rw [ready'.mem_rowKeys h reads', ready.mem_rowKeys h reads, same]

theorem run_eq_of_contents (ready : r.Ready keyspace) (ready' : r'.Ready keyspace')
    (reads : r.cluster.failReads = false) (reads' : r'.cluster.failReads = false)
    (same : ∀ table ∈ tableNames, table ∉ nodeTables → r'.contents table = r.contents table)
    {op : Operation} (beyond : op.LooksBeyondNodes) : (op.run r').1 = (op.run r).1 := by
  refine run_eq_of_reads (fun name h other => funext fun key => ?_) (fun name h other => ?_) beyond
  · rw [ready'.fetch_of_reads h reads', ready.fetch_of_reads h reads, same name h other]
  · exact funext (rowKeys_eq_of_contents ready ready' reads reads' h (same name h other))

end Replicated

/-! ## Either kind -/

namespace Backend

variable {b b' : Backend} {nodes nodes' : NodeMap} {hostname : String} {node : Node}

def shown : Backend → Node → Node
  | memory _ => id
  | replicated _ => readBack

theorem Holds.inOrder (holds : b.Holds nodes) (reads : b.failsReads = false)
    (writes : b.failsWrites = false) : b.InOrder := by
  cases b with
  | memory m => trivial
  | replicated r =>
      obtain ⟨ready, consistent, -⟩ := holds
      exact ⟨⟨ready, reads, writes⟩, consistent⟩

theorem InOrder.failsWrites (inOrder : b.InOrder) : b.failsWrites = false := by
  cases b with
  | memory m => rfl
  | replicated r => exact inOrder.1.writes

theorem Holds.findNode_eq (holds : b.Holds nodes) (reads : b.failsReads = false)
    (hostname : String) : Directory.findNode hostname b = .ok ((nodes[hostname]?).map b.shown) := by
  cases b with
  | memory m =>
      obtain ⟨-, rfl⟩ := holds
      rw [show (memory m).shown = id from rfl, Option.map_id]
      rfl
  | replicated r =>
      obtain ⟨⟨keyspace, ready⟩, -, stored⟩ := holds
      exact Replicated.fetchNode_eq ready reads stored hostname

theorem Holds.nodeForIp?_eq_some_iff (holds : b.Holds nodes) (reads : b.failsReads = false)
    (ip : String) (node : Node) :
    Directory.nodeForIp? ip b = some node ↔
      Directory.getNode? node.hostname b = some node ∧ node.ipAddress = ip := by
  cases b with
  | memory m => exact holds.1.nodes.forIp?_eq_some_iff ip node
  | replicated r =>
      obtain ⟨⟨keyspace, ready⟩, -, stored⟩ := holds
      exact Replicated.nodeForIp?_eq_some_iff ready reads stored ip node

theorem ipAddress_shown (b : Backend) (record : Node) :
    (b.shown record).ipAddress = record.ipAddress := by
  cases b <;> rfl

/-- A change of a node that is shown, but for its IP address and its platforms, is shown whole. -/
theorem shown_change {change : Node → Node} (keeps : KeepsIndices change) (b : Backend)
    (record : Node) : b.shown (change (b.shown record)) = change (b.shown record) := by
  cases b with
  | memory m => rfl
  | replicated r =>
      refine Replicated.Layout.readBack_eq_self_iff.2 fun platform listed => ?_
      change platform ∈ (change (readBack record)).platforms at listed
      rw [keeps.platforms] at listed
      exact Replicated.Layout.plainName_of_mem_readBack listed

/-! ### Beyond the nodes -/

/-- The directories are of one kind and hold the same calls, clients, applications and addresses,
and their reads and writes fail alike. -/
def SameBeyondNodes : Backend → Backend → Prop
  | memory m, memory m' => m'.calls = m.calls ∧ m'.applications = m.applications
  | replicated r, replicated r' => r.SameSwitches r' ∧
    ∀ table ∈ tableNames, table ∉ nodeTables → r'.contents table = r.contents table
  | _, _ => False

theorem SameBeyondNodes.shown (same : b.SameBeyondNodes b') : b'.shown = b.shown := by
  cases b <;> cases b' <;> first | rfl | exact same.elim

theorem SameBeyondNodes.failsReads (same : b.SameBeyondNodes b') :
    b'.failsReads = b.failsReads := by
  cases b <;> cases b' <;> first | rfl | exact same.elim | exact same.1.failReads

theorem SameBeyondNodes.failsWrites (same : b.SameBeyondNodes b') :
    b'.failsWrites = b.failsWrites := by
  cases b <;> cases b' <;> first | rfl | exact same.elim | exact same.1.failWrites

/-- An update of a node keeps to the tables of nodes, whether it is answered or refused. -/
theorem Holds.sameBeyondNodes_updateNode (holds : b.Holds nodes) (node : Node) :
    b.SameBeyondNodes (Directory.updateNode node (Directory.noteLookup b)).2 := by
  cases b with
  | memory m => exact ⟨rfl, rfl⟩
  | replicated r =>
      obtain ⟨⟨keyspace, ready⟩, consistent, -⟩ := holds
      rw [← Replicated.contents_noteRead r] at consistent
      have noted := Replicated.sameSwitches_noteRead r
      have within (batch : Columns.Batch)
          (planned : Replicated.Plans (Replicated.planUpdateNode node) r.noteRead batch) :
          Columns.Contents.Within nodeTables batch :=
        consistent.within ready.noteRead (show r.noteRead.Writes batch (.updateNode node) from
          planned)
      obtain ⟨-, switches, hcontents⟩ := Replicated.follows_carryOut ready.noteRead
        fun batch planned => (within batch planned).mono Replicated.nodeTables_subset
      refine ⟨⟨switches.keyspace.trans noted.keyspace, switches.failReads.trans noted.failReads,
        switches.failWrites.trans noted.failWrites⟩, fun table _ other => ?_⟩
      rw [← Replicated.contents_noteRead r]
      rcases hcontents with unchanged | ⟨batch, planned, written⟩
      · exact congrFun unchanged table
      · exact (congrFun written table).trans ((within batch planned).applyAll_eq _ other)

theorem SameBeyondNodes.run_eq (same : b.SameBeyondNodes b') (holds : b.Holds nodes)
    (holds' : b'.Holds nodes') (reads : b.failsReads = false) {op : Operation}
    (beyond : op.LooksBeyondNodes) : (op.run b').1 = (op.run b).1 := by
  cases b with
  | memory m =>
      cases b' with
      | memory m' =>
          obtain ⟨calls, applications⟩ := same
          rw [run_memory, run_memory]
          exact Memory.run_eq_of_records calls applications beyond
      | replicated r' => exact same.elim
  | replicated r =>
      cases b' with
      | memory m' => exact same.elim
      | replicated r' =>
          obtain ⟨⟨keyspace, ready⟩, -, -⟩ := holds
          obtain ⟨⟨keyspace', ready'⟩, -, -⟩ := holds'
          obtain ⟨switches, contents⟩ := same
          rw [run_replicated, run_replicated]
          exact Replicated.run_eq_of_contents ready ready' reads
            (switches.failReads.trans reads) contents beyond

/-! ### One node with another record -/

/-- The later directory finds this node under its hostname, and else what the earlier one finds;
reads and writes fail alike. -/
structure Rewrites (hostname : String) (node : Node) (b b' : Backend) : Prop where
  written : Directory.findNode hostname b' = .ok (some node)
  others : ∀ other, other ≠ hostname →
    Directory.findNode other b' = Directory.findNode other b
  /-- Every other node is listed for the platforms that it was listed for. -/
  listings : ∀ other : Node, other.hostname ≠ hostname → ∀ platform,
    (other ∈ Directory.nodesForPlatform platform b' ↔
      other ∈ Directory.nodesForPlatform platform b)
  /-- The IP addresses lead to the nodes that they led to. -/
  ips : ∀ ip, Directory.nodeForIp? ip b' =
    (Directory.nodeForIp? ip b).map fun other => if other.hostname = hostname then node else other
  beyond : ∀ op : Operation, op.LooksBeyondNodes → (op.run b').1 = (op.run b).1
  failsReads : b'.failsReads = b.failsReads
  failsWrites : b'.failsWrites = b.failsWrites

/-- A node is registered at one IP address, so a record with the same one is found through it. -/
theorem Holds.nodeForIp?_of_written (holds : b.Holds nodes) (holds' : b'.Holds nodes')
    (reads : b.failsReads = false) (reads' : b'.failsReads = false) {old : Node}
    (found : Directory.findNode hostname b = .ok (some old)) (ip : node.ipAddress = old.ipAddress)
    (written : Directory.findNode hostname b' = .ok (some node))
    (others : ∀ other, other ≠ hostname →
      Directory.findNode other b' = Directory.findNode other b) (address : String) :
    Directory.nodeForIp? address b' =
      (Directory.nodeForIp? address b).map fun other =>
        if other.hostname = hostname then node else other := by
  have known := getNode?_of_findNode found
  have known' := getNode?_of_findNode written
  have hkey := holds.hostname_of_getNode? known
  have hkey' := holds'.hostname_of_getNode? known'
  have elsewhere (other : String) (h : other ≠ hostname) :
      Directory.getNode? other b' = Directory.getNode? other b := by
    have same := others other h
    rw [holds.findNode_eq reads] at same
    rw [getNode?_of_findNode same, getNode?_of_findNode (holds.findNode_eq reads other)]
  -- An address leads to the one node that is shown with it, before the update and after it.
  refine Option.ext fun shown => ?_
  rw [Option.map_eq_some_iff, holds'.nodeForIp?_eq_some_iff reads']
  constructor
  · rintro ⟨hshown, rfl⟩
    by_cases h : shown.hostname = hostname
    · rw [h, known'] at hshown
      obtain rfl := Option.some.inj hshown
      refine ⟨old, (holds.nodeForIp?_eq_some_iff reads _ _).2 ⟨?_, ip.symm⟩, if_pos hkey⟩
      rw [hkey, known]
    · rw [elsewhere _ h] at hshown
      exact ⟨shown, (holds.nodeForIp?_eq_some_iff reads _ _).2 ⟨hshown, rfl⟩, if_neg h⟩
  · rintro ⟨other, hother, rfl⟩
    obtain ⟨hknown, rfl⟩ := (holds.nodeForIp?_eq_some_iff reads _ _).1 hother
    by_cases h : other.hostname = hostname
    · rw [h, known] at hknown
      obtain rfl := Option.some.inj hknown
      rw [if_pos h, hkey']
      exact ⟨known', ip⟩
    · rw [if_neg h, elsewhere _ h]
      exact ⟨hknown, rfl⟩

/-- A node that is shown is a registered record. -/
theorem Holds.exists_record (holds : b.Holds nodes) (reads : b.failsReads = false)
    (found : Directory.findNode hostname b = .ok (some node)) :
    ∃ record, nodes[hostname]? = some record ∧ b.shown record = node := by
  rw [holds.findNode_eq reads] at found
  exact Option.map_eq_some_iff.1 (Except.ok.inj found)

section Change

variable {change : Node → Node} (keeps : KeepsIndices change) (holds : b.Holds nodes)
  (reads : b.failsReads = false) (found : Directory.findNode hostname b = .ok (some node))
include keeps holds reads found

/-- Another record under one hostname is all that a directory shows of an update. -/
theorem rewrites_of_holds (holds' : b'.Holds (nodes.insert hostname (change node)))
    (listings : ∀ other : Node, other.hostname ≠ hostname → ∀ platform,
      (other ∈ Directory.nodesForPlatform platform b' ↔
        other ∈ Directory.nodesForPlatform platform b))
    (same : b.SameBeyondNodes b') : b.Rewrites hostname (change node) b' := by
  obtain ⟨record, -, rfl⟩ := holds.exists_record reads found
  have reads' := same.failsReads.trans reads
  have written : Directory.findNode hostname b' = .ok (some (change (b.shown record))) := by
    rw [holds'.findNode_eq reads', Maps.getElem?_insert, if_pos rfl, same.shown, Option.map_some,
      shown_change keeps]
  have others (other : String) (h : other ≠ hostname) :
      Directory.findNode other b' = Directory.findNode other b := by
    rw [holds'.findNode_eq reads', holds.findNode_eq reads, Maps.getElem?_insert, same.shown,
      if_neg h.symm]
  exact {
    written, others, listings
    ips := holds.nodeForIp?_of_written holds' reads reads' found (keeps.ipAddress _) written others
    beyond := fun _ => same.run_eq holds holds' reads
    failsReads := same.failsReads
    failsWrites := same.failsWrites }

/-- A node that was found can be written back with a change that keeps its IP address and its
platforms, and nothing else changes. -/
theorem rewrites_updateNode (writes : b.failsWrites = false) :
    ∃ b', Directory.updateNode (change node) (Directory.noteLookup b) =
        (.ok (change node), b') ∧
      b.Rewrites hostname (change node) b' := by
  have hkey := (keeps.hostname node).trans (holds.hostname_of_getNode? (getNode?_of_findNode found))
  obtain ⟨record, known, rfl⟩ := holds.exists_record reads found
  have ip : (change (b.shown record)).ipAddress = record.ipAddress :=
    (keeps.ipAddress _).trans (ipAddress_shown b record)
  have inOrder := holds.noteLookup.inOrder ((failsReads_noteLookup b).trans reads)
    ((failsWrites_noteLookup b).trans writes)
  have accepted := holds.noteLookup.updateNode_accepted inOrder (hkey.symm ▸ known) ip
  have holds' := holds.noteLookup.updateNode_ok accepted
  rw [hkey] at holds'
  refine ⟨_, Prod.ext accepted rfl, rewrites_of_holds keeps holds reads found holds'
    (fun other distinct platform => ?_) (holds.sameBeyondNodes_updateNode _)⟩
  rw [← nodesForPlatform_noteLookup b]
  exact holds.noteLookup.mem_nodesForPlatform_updateNode (hkey.symm ▸ distinct) platform

end Change

end Backend

end Switchboard
