import Switchboard.Columns.Runtime
import Switchboard.Proofs.Columns.Rewriting
import Switchboard.Proofs.Directory.NodeCommands
import Switchboard.Proofs.Directory.Unfailing

/-! # Updating a node is removing it and storing it anew

An update changes the indices by what differs between the old record and the new one, a removal
takes every entry of the old record away and storing adds every entry of the new one. What is
left behind is the same: on a cluster the very same tables, in memory the same records and
indices, where only the order in which a platform lists its nodes may differ.
-/

namespace Switchboard

open Switchboard.Columns Switchboard.Maps Switchboard.Records
open Replicated (NodesStored Consistent Event)
open Replicated.Layout (readBack)

namespace Records

variable {nodes : NodeMap}

/-- A removal takes no IP address. -/
theorem IpTaken.of_erase {gone ip hostname : String}
    (taken : IpTaken (nodes.erase gone) ip hostname) : IpTaken nodes ip hostname := by
  obtain ⟨owner, other, held⟩ := taken
  exact ⟨owner, other, ((at_erase gone owner _).1 held).2⟩

end Records

/-! ## In memory -/

namespace Memory

namespace Nodes

/-- The same records and indices, up to the order of the nodes of each platform. -/
structure SameButOrder (nodes nodes' : Nodes) : Prop where
  byHostname : nodes.byHostname = nodes'.byHostname
  byIp : nodes.byIp = nodes'.byIp
  platforms : nodes.byPlatform.keys = nodes'.byPlatform.keys
  listed : ∀ platform, (nodes.byPlatform.values platform).Perm (nodes'.byPlatform.values platform)

variable {nodes nodes' : Nodes} {node answer : Node}

/-- Exact indices are determined by the records, up to the order of the lists. -/
theorem Exact.sameButOrder (exact : nodes.Exact) (exact' : nodes'.Exact)
    (records : nodes.byHostname = nodes'.byHostname) : nodes.SameButOrder nodes' where
  byHostname := records
  byIp := by
    apply Std.ExtTreeMap.ext_getElem?
    intro ip
    apply Option.ext
    intro hostname
    rw [exact.ips, exact'.ips, records]
  platforms := by
    refine (keys_sorted _).eq_of_mem_iff (keys_sorted _) fun platform => ?_
    rw [exact.platforms.mem_keys, exact'.platforms.mem_keys, records]
  listed := by
    intro platform
    refine (List.perm_ext_iff_of_nodup (exact.platforms.nodup platform)
      (exact'.platforms.nodup platform)).2 fun hostname => ?_
    rw [exact.platforms.mem_iff, exact'.platforms.mem_iff, records]

/-- An update that goes through could have been a removal and a storing. -/
theorem Exact.update_sameButOrder (exact : nodes.Exact)
    (updated : (Nodes.update node nodes).1 = .ok answer) :
    ∃ previous removed stored, Nodes.remove node.hostname nodes = (.ok previous, removed) ∧
      Nodes.store node removed = (.ok node, stored) ∧
      (Nodes.update node nodes).2.SameButOrder stored := by
  obtain ⟨previous, known, free, update⟩ := exact.of_update_ok updated
  have remove := exact.remove_eq node.hostname
  simp only [known] at remove
  have same : previous.hostname = node.hostname := exact.keyed _ previous known
  have removed : (nodes.drop previous).Exact := exact.drop (same ▸ known)
  have fresh : (nodes.drop previous).byHostname[node.hostname]? = none := by
    rw [Nodes.drop, same, Std.ExtTreeMap.getElem?_erase_self]
  have free' : ¬ IpTaken (nodes.drop previous).byHostname node.ipAddress node.hostname :=
    mt IpTaken.of_erase free
  have store := removed.store_eq node
  simp only [fresh, if_neg free'] at store
  refine ⟨previous, _, _, remove, store, ?_⟩
  rw [update]
  apply (exact.replace known free).sameButOrder (removed.create fresh free')
  simp only [Nodes.put, Nodes.release, Nodes.drop, same, insert_erase]

end Nodes

end Memory

/-! ## On a cluster -/

namespace Replicated

variable {r : Replicated} {keyspace : Keyspace} {nodes : NodeMap} {node previous answer : Node}
  {contents contents' : Contents}

/-! ### The contents of the tables -/

theorem NodesStored.same_tables (stored : NodesStored nodes contents)
    (stored' : NodesStored nodes contents') :
    contents Layout.nodes = contents' Layout.nodes ∧
      contents Layout.ips = contents' Layout.ips := by
  constructor
  · funext hostname
    rw [stored.rows, stored'.rows]
  · exact stored.ips.table_eq stored'.ips

theorem NodesStored.vacated (stored : NodesStored nodes contents) {hostname : String}
    (known : nodes[hostname]? = some previous) :
    NodesStored (nodes.erase hostname) (contents.applyAll (dropNode (readBack previous))) := by
  obtain rfl := stored.keyed hostname previous known
  exact stored.remove known

/-- The batch of an update comes to what the batches of a removal and of a storing come to. -/
theorem applyAll_dropNode_insertNode (consistent : Consistent contents)
    (stored : NodesStored nodes contents) (known : nodes[node.hostname]? = some previous)
    (free : ¬ IpTaken nodes node.ipAddress node.hostname) :
    (contents.applyAll (dropNode (readBack previous))).applyAll (Layout.insertNode node) =
      contents.applyAll (replaceNode (readBack previous) node) := by
  obtain ⟨listed, lists⟩ := consistent.listed
  have same : previous.hostname = node.hostname := stored.keyed _ previous known
  have restored := (stored.vacated known).create Std.ExtTreeMap.getElem?_erase_self
    (mt IpTaken.of_erase free)
  rw [insert_erase] at restored
  obtain ⟨rows, ips⟩ := restored.same_tables (stored.replace known free)
  have relisted := (lists_insertNode (lists_dropNode lists (readBack previous)) node).congr
    fun platform hostname => by rw [show (readBack previous).hostname = node.hostname from same]
  have platforms := relisted.table_eq (lists_replaceNode lists (readBack previous) node)
  funext table
  by_cases own : table ∈ nodeTables
  · simp only [nodeTables, List.mem_cons, List.not_mem_nil, or_false] at own
    rcases own with rfl | rfl | rfl
    · exact rows
    · exact platforms
    · exact ips
  · rw [(within_insertNode node).applyAll_eq _ own, (within_dropNode _).applyAll_eq _ own,
      (within_replaceNode _ node).applyAll_eq _ own]

/-! ### The cluster -/

/-- The directory after a batch that its cluster has taken. -/
def written (r : Replicated) (keyspace : Keyspace) (batch : Batch) : Replicated :=
  { r with cluster := { r.cluster.noteLevel .one with
      keyspaces := r.cluster.keyspaces.insert r.keyspace (keyspace.write r.cluster.clock batch) } }

theorem Ready.carryOut_eq_written {α : Type} (ready : r.Ready keyspace)
    {plan : Replicated → Except DirectoryError (Plan α)} {batch : Batch} {context : String}
    {answer : α} (planned : plan r = .ok (.write batch context answer))
    (named : Contents.Within tableNames batch) (writes : r.cluster.failWrites = false) :
    carryOut plan r = (.ok answer, r.written keyspace batch) := by
  have present : ∀ mutation ∈ batch, keyspace.tables.contains mutation.table :=
    fun mutation hm => ready.present (named mutation hm)
  simp [carryOut, planned, Cluster.execute_of_present ready.stored present, writes, written]

theorem Ready.after_written (ready : r.Ready keyspace) {batch : Batch}
    (named : Contents.Within tableNames batch) :
    (r.written keyspace batch).Ready (keyspace.write r.cluster.clock batch) ∧
      (r.written keyspace batch).contents = r.contents.applyAll batch := by
  have present : ∀ mutation ∈ batch, keyspace.tables.contains mutation.table :=
    fun mutation hm => ready.present (named mutation hm)
  obtain ⟨orderly, graces, contents⟩ := Keyspace.write_spec ready.orderly r.cluster.clock present
  have stored : (r.written keyspace batch).cluster.keyspaces[(r.written keyspace batch).keyspace]? =
      some (keyspace.write r.cluster.clock batch) := by simp [Replicated.written]
  refine ⟨⟨stored, orderly, fun table hin => (graces _).trans (ready.graces table hin)⟩, ?_⟩
  rw [contents_of_stored stored, contents, ready.contents_eq]

/-- No table of nodes keeps tombstones. -/
theorem Ready.graceless (ready : r.Ready keyspace) {batch : Batch}
    (within : Contents.Within nodeTables batch) : keyspace.Graceless batch := by
  intro mutation hm
  have named := within mutation hm
  have defined : (⟨mutation.table, 0⟩ : TableDef) ∈ Layout.tables := by
    simp only [nodeTables, List.mem_cons, List.not_mem_nil, or_false] at named
    rcases named with same | same | same <;> simp [Layout.tables, same]
  have none : (⟨mutation.table, 0⟩ : TableDef).grace.nanos = 0 := Nat.zero_mul _
  rw [← none]
  exact ready.graces _ defined

/-- Two batches on nodes leave behind what one does that comes to the same contents. -/
theorem Ready.written_written (ready : r.Ready keyspace) {batch first second : Batch}
    (within : Contents.Within nodeTables batch) (within₁ : Contents.Within nodeTables first)
    (within₂ : Contents.Within nodeTables second)
    (same : (r.contents.applyAll first).applyAll second = r.contents.applyAll batch) :
    (r.written keyspace first).written (keyspace.write r.cluster.clock first) second =
      r.written keyspace batch := by
  rw [ready.contents_eq] at same
  have write := Keyspace.write_write ready.orderly r.cluster.clock (ready.graceless within)
    (ready.graceless within₁) (ready.graceless within₂) same
  have noted : ((r.written keyspace first).cluster.noteLevel .one).levels =
      (r.cluster.noteLevel .one).levels := by
    simp only [Replicated.written, Cluster.noteLevel]
    by_cases asked : Consistency.one ∈ r.cluster.levels <;> simp [asked]
  have keyspaces := insert_insert r.cluster.keyspaces r.keyspace
    (keyspace.write r.cluster.clock first) (keyspace.write r.cluster.clock batch)
  rw [Replicated.written, Cluster.noteLevel_eq, noted]
  simp only [Replicated.written, write, keyspaces, Cluster.now_noteLevel]

/-- An update that goes through could have been a removal and a storing. -/
theorem Live.update_eq_remove_store (live : r.Live) (consistent : Consistent r.contents)
    (updated : (carryOut (planUpdateNode node) r).1 = .ok answer) :
    ∃ previous removed, carryOut (planRemoveNode node.hostname) r = (.ok previous, removed) ∧
      carryOut (planStoreNode node) removed =
        (.ok node, (carryOut (planUpdateNode node) r).2) := by
  obtain ⟨keyspace, ready⟩ := live.ready
  obtain ⟨nodes, stored⟩ := consistent.nodes
  rcases planUpdateNode_cases ready live.reads stored node with
    ⟨previous, known, free⟩ | ⟨e, refused⟩
  · have update := planUpdateNode_eq ready live.reads stored node
    simp only [known, if_neg free] at update
    have remove := planRemoveNode_eq ready live.reads stored node.hostname
    simp only [known] at remove
    have dropped := within_dropNode (readBack previous)
    have inserted := within_insertNode node
    have replaced := within_replaceNode (readBack previous) node
    obtain ⟨ready', contents'⟩ := ready.after_written (dropped.mono nodeTables_subset)
    have stored' := stored.vacated known
    rw [← contents'] at stored'
    have store := planStoreNode_eq ready' (by simpa [written] using live.reads) stored' node
    simp only [Std.ExtTreeMap.getElem?_erase_self, if_neg (mt IpTaken.of_erase free)] at store
    refine ⟨readBack previous, _, ready.carryOut_eq_written remove
      (dropped.mono nodeTables_subset) live.writes, ?_⟩
    rw [ready'.carryOut_eq_written store (inserted.mono nodeTables_subset)
        (by simpa [written] using live.writes),
      ready.carryOut_eq_written update (replaced.mono nodeTables_subset) live.writes,
      ready.written_written replaced dropped inserted
        (applyAll_dropNode_insertNode consistent stored known free)]
  · rw [carryOut_of_error refused] at updated
    cases updated

end Replicated

/-! ## Either kind -/

namespace Backend

/-- The same records and indices: on a cluster everything in every table, in memory everything but
the order in which a platform lists its nodes. -/
def SameButOrder : Backend → Backend → Prop
  | memory m, memory m' =>
    m.nodes.SameButOrder m'.nodes ∧ m.calls = m'.calls ∧ m.applications = m'.applications
  | replicated r, replicated r' => r = r'
  | _, _ => False

variable {b : Backend} {nodes : NodeMap} {node answer : Node} {events : List Event}

theorem Holds.update_sameButOrder (holds : b.Holds nodes) (inOrder : b.InOrder)
    (updated : (Directory.updateNode node b).1 = .ok answer) :
    ∃ previous removed stored, Directory.removeNode node.hostname b = (.ok previous, removed) ∧
      Directory.storeNode node removed = (.ok node, stored) ∧
      (Directory.updateNode node b).2.SameButOrder stored := by
  cases b with
  | memory m =>
      obtain ⟨previous, removed, stored, remove, store, same⟩ :=
        holds.1.nodes.update_sameButOrder updated
      let lift (result : Except DirectoryError Node × Memory.Nodes) :=
        (result.1, memory { m with nodes := result.2 })
      exact ⟨previous, _, _, congrArg lift remove, congrArg lift store, same, rfl, rfl⟩
  | replicated r =>
      obtain ⟨previous, removed, remove, store⟩ :=
        inOrder.1.update_eq_remove_store inOrder.2 updated
      let lift (result : Except DirectoryError Node × Replicated) :=
        (result.1, replicated result.2)
      exact ⟨previous, _, _, congrArg lift remove, congrArg lift store, rfl⟩

/-- A history without failures leads to a directory that is in order and holds some nodes. -/
theorem Fresh.reached (fresh : b.Fresh) (unfailing : b.Unfailing)
    (quiet : ∀ event ∈ events, event.Quiet) :
    ∃ nodes, (b.afterAll events).Holds nodes ∧ (b.afterAll events).InOrder := by
  have step {b : Backend} {event : Event} (reached : ∃ nodes, b.Holds nodes ∧ b.InOrder)
      (calm : event.Quiet) : ∃ nodes, (b.after event).Holds nodes ∧ (b.after event).InOrder := by
    obtain ⟨nodes, holds, inOrder⟩ := reached
    obtain ⟨nodes', holds', -⟩ := holds.after event
    exact ⟨nodes', holds', inOrder.after calm⟩
  exact preserved_afterAll (fun b => ∃ nodes, b.Holds nodes ∧ b.InOrder) step
    ⟨∅, fresh.holds, fresh.inOrder unfailing⟩ quiet

/-- Whenever a node can be updated, it can be removed and then stored as it should be, and the
directory is the same after that as after the update. -/
theorem update_is_removal_and_storing (fresh : b.Fresh) (unfailing : b.Unfailing)
    (quiet : ∀ event ∈ events, event.Quiet)
    (updated : (Directory.updateNode node (b.afterAll events)).1 = .ok answer) :
    ∃ previous removed stored,
      Directory.removeNode node.hostname (b.afterAll events) = (.ok previous, removed) ∧
      Directory.storeNode node removed = (.ok node, stored) ∧
      (Directory.updateNode node (b.afterAll events)).2.SameButOrder stored := by
  obtain ⟨nodes, holds, inOrder⟩ := fresh.reached unfailing quiet
  exact holds.update_sameButOrder inOrder updated

/-- A node takes another IP address, leaves one platform, joins one and stays on one with another
node. -/
theorem update_is_removal_and_storing_of_moved_node :
    let before : Node := ⟨"a", "10.0.0.1", .ofList ["pstn", "sip"], 1, 1, 0, false⟩
    let after : Node := ⟨"a", "10.0.0.3", .ofList ["sip", "xmpp"], 2, 1, 0, false⟩
    let other : Node := ⟨"b", "10.0.0.2", .ofList ["sip"], 1, 1, 0, false⟩
    let events : List Event := [.operation (.storeNode before), .advance 5,
      .operation (.storeNode other), .operation (.storeCall ⟨"1", "c@d", "a"⟩)]
    let cluster := (Replicated.openOn {} {}).2
    ∀ start ∈ [memory {}, replicated ⟨cluster, "rayo"⟩],
      (Directory.updateNode after (start.afterAll events)).1 = .ok after ∧
      ∃ previous removed stored,
        Directory.removeNode after.hostname (start.afterAll events) = (.ok previous, removed) ∧
        Directory.storeNode after removed = (.ok after, stored) ∧
        (Directory.updateNode after (start.afterAll events)).2.SameButOrder stored := by
  intro before after other events cluster start hstart
  have opened : Replicated.openOn {} {} = (.ok ⟨cluster, "rayo"⟩, cluster) := by decide +kernel
  have started : start.Fresh ∧ start.Unfailing ∧
      (Directory.updateNode after (start.afterAll events)).1 = .ok after := by
    simp only [List.mem_cons, List.not_mem_nil, or_false] at hstart
    rcases hstart with rfl | rfl
    · exact ⟨.memory, trivial, by decide +kernel⟩
    · exact ⟨.replicated rfl opened, ⟨by decide +kernel, by decide +kernel⟩, by decide +kernel⟩
  obtain ⟨fresh, unfailing, updated⟩ := started
  have quiet : ∀ event ∈ events, event.Quiet := by simp [events, Event.Quiet]
  exact ⟨updated, update_is_removal_and_storing fresh unfailing quiet updated⟩

end Backend

end Switchboard
