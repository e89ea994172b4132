import Switchboard.Directory.Backend
import Switchboard.Proofs.Directory.Memory.History
import Switchboard.Proofs.Directory.Replicated.Opening
import Switchboard.Proofs.Directory.Replicated.Platforms

/-! # The node records of either directory

A directory of either kind holds a map of node records. What it shows of a node is that
record, apart from the platforms, which the tables keep as one text. A command changes
the map in its own way or not at all, with reads and writes failing at any time.
-/

namespace Switchboard

open Switchboard.Columns Switchboard.Maps Switchboard.Records
open Replicated (NodesStored Consistent Plans Event)
open Replicated.Layout (readBack)

/-- What is shown for a record differs from it in the platforms at most. -/
def Node.Shows (shown record : Node) : Prop :=
  shown = { record with platforms := shown.platforms }

theorem shows_readBack (node : Node) : (readBack node).Shows node := rfl

/-- The registered nodes after an operation, which may have been refused. -/
inductive NodeChange (nodes : NodeMap) : Operation → NodeMap → Prop
  | kept (op : Operation) : NodeChange nodes op nodes
  | stored (node : Node) : NodeChange nodes (.storeNode node) (nodes.insert node.hostname node)
  | updated (node : Node) : NodeChange nodes (.updateNode node) (nodes.insert node.hostname node)
  | removed (hostname : String) : NodeChange nodes (.removeNode hostname) (nodes.erase hostname)

/-! ## In memory -/

theorem Memory.nodeChange_run (m : Memory) (op : Operation) :
    NodeChange m.nodes.byHostname op (op.run m).2.nodes.byHostname := by
  cases op with
  | storeNode node =>
      change NodeChange _ _ (Nodes.store node m.nodes).2.byHostname
      unfold Nodes.store
      split
      · exact .kept _
      · split
        · exact .kept _
        · exact .stored node
  | updateNode node =>
      change NodeChange _ _ (Nodes.update node m.nodes).2.byHostname
      unfold Nodes.update
      split
      · exact .kept _
      · split
        · exact .kept _
        · exact .updated node
  | removeNode hostname =>
      change NodeChange _ _ (Nodes.remove hostname m.nodes).2.byHostname
      unfold Nodes.remove
      split
      · exact .kept _
      · exact .removed hostname
  | storeCall call =>
      change NodeChange _ _ (Directory.storeCall call m).2.nodes.byHostname
      simp only [Directory.storeCall]
      split <;> exact .kept _
  | _ => exact .kept _

/-! ## On a cluster -/

namespace Replicated

variable {r : Replicated} {keyspace : Keyspace} {nodes : NodeMap}

theorem nodeChange_run (ready : r.Ready keyspace) (consistent : Consistent r.contents)
    (stored : NodesStored nodes r.contents) (op : Operation) :
    ∃ nodes', NodeChange nodes op nodes' ∧ NodesStored nodes' (op.run r).2.contents := by
  obtain ⟨-, -, hcontents⟩ := follows_run ready op fun batch planned =>
    (consistent.within ready planned).mono (tablesOf_subset op)
  rcases hcontents with unchanged | ⟨batch, planned, written⟩
  · exact ⟨nodes, .kept op, by rwa [unchanged]⟩
  -- Only the batches of the node commands reach the node tables.
  have within := consistent.within ready planned
  rw [written]
  cases op with
  | storeNode node =>
      obtain ⟨fresh, free, rfl⟩ := plans_storeNode ready stored planned
      exact ⟨_, .stored node, stored.create fresh free⟩
  | updateNode node =>
      obtain ⟨previous, known, free, rfl⟩ := plans_updateNode ready stored planned
      exact ⟨_, .updated node, stored.replace known free⟩
  | removeNode hostname =>
      obtain ⟨node, known, rfl⟩ := plans_removeNode ready stored planned
      obtain rfl := stored.keyed hostname node known
      exact ⟨_, .removed node.hostname, stored.remove known⟩
  | storeCall | removeCall =>
      have disjoint : ∀ table ∈ nodeTables, table ∉ callTables := by decide
      exact ⟨nodes, .kept _, stored.of_contents_eq (within.keeps disjoint)⟩
  | storeClient | removeClient =>
      have disjoint : ∀ table ∈ nodeTables, table ∉ clientTables := by decide
      exact ⟨nodes, .kept _, stored.of_contents_eq (within.keeps disjoint)⟩
  | storeApplication | removeApplication | storeAddress | storeAddresses | removeAddress =>
      have disjoint : ∀ table ∈ nodeTables, table ∉ applicationTables := by decide
      exact ⟨nodes, .kept _, stored.of_contents_eq (within.keeps disjoint)⟩
  | _ => exact planned.elim

theorem node?_eq_none_of_failReads (ready : r.Ready keyspace) (fails : r.cluster.failReads = true)
    (hostname : String) : r.node? hostname = none := by
  obtain ⟨e, he⟩ := ready.fetch_of_failReads (show Layout.nodes ∈ tableNames by decide) fails
    hostname
  simp [node?, columns, he, Layout.node?]

theorem shows_of_node? (ready : r.Ready keyspace) (stored : NodesStored nodes r.contents)
    {hostname : String} {shown : Node} (found : r.node? hostname = some shown) :
    ∃ record, nodes[hostname]? = some record ∧ shown.Shows record := by
  cases reads : r.cluster.failReads with
  | true => simp [node?_eq_none_of_failReads ready reads] at found
  | false =>
      rw [node?_eq ready reads stored, Option.map_eq_some_iff] at found
      obtain ⟨record, known, rfl⟩ := found
      exact ⟨record, known, shows_readBack record⟩

theorem node?_of_fetchNode {hostname : String} {found : Option Node}
    (h : r.fetchNode hostname = .ok found) : r.node? hostname = found := by
  rw [node?, columns]
  cases fetched : r.fetch Layout.nodes hostname with
  | error e => simp [fetchNode, fetched, Except.map] at h
  | ok columns => simpa [fetchNode, fetched, Except.map] using h

@[simp] theorem node?_noteRead (r : Replicated) (hostname : String) :
    r.noteRead.node? hostname = r.node? hostname := by
  simp [node?, columns, fetch, Cluster.row, Cluster.readable, Cluster.keyspace, noteRead]

/-- An update goes through only when the node can be read. -/
theorem node?_ne_none_of_plans (ready : r.Ready keyspace) (stored : NodesStored nodes r.contents)
    {node : Node} {batch : Batch} (planned : Plans (planUpdateNode node) r batch) :
    r.node? node.hostname ≠ none := by
  obtain ⟨previous, known, -⟩ := plans_updateNode ready stored planned
  have reads := reads_of_plans_updateNode ready planned
  simp [node?_eq ready reads stored, known]

/-- An update that is answered has been written. -/
theorem stored_of_updateNode_ok (ready : r.Ready keyspace) (stored : NodesStored nodes r.contents)
    {node answer : Node} (accepted : (carryOut (planUpdateNode node) r).1 = .ok answer) :
    NodesStored (nodes.insert node.hostname node)
      (carryOut (planUpdateNode node) r).2.contents := by
  have planned (e : DirectoryError) : planUpdateNode node r ≠ .error e := by
    intro refused
    rw [carryOut_of_error refused] at accepted
    cases accepted
  have reads : r.cluster.failReads = false := by
    cases fails : r.cluster.failReads with
    | false => rfl
    | true =>
        obtain ⟨e, unread⟩ := ready.fetch_of_failReads (show Layout.nodes ∈ tableNames by decide)
          fails node.hostname
        exact absurd (planUpdateNode_of_unread unread) (planned e)
  rcases planUpdateNode_cases ready reads stored node with ⟨previous, known, free⟩ | ⟨e, refused⟩
  · have plan := planUpdateNode_eq ready reads stored node
    simp only [known, if_neg free] at plan
    have named := (within_replaceNode (readBack previous) node).mono nodeTables_subset
    rw [ready.contents_of_carryOut_ok plan named accepted]
    exact stored.replace known free
  · exact absurd refused (planned e)

end Replicated

/-! ## Either kind -/

namespace Backend

/-- The directory holds these node records, and the rest of it is in order. -/
def Holds (nodes : NodeMap) : Backend → Prop
  | memory m => m.Indexed ∧ m.nodes.byHostname = nodes
  | replicated r =>
    (∃ keyspace, r.Ready keyspace) ∧ Consistent r.contents ∧ NodesStored nodes r.contents

/-- A directory without records: one in memory, or one opened on a cluster without keyspaces. -/
inductive Fresh : Backend → Prop
  | memory : Fresh (memory {})
  | replicated [Timer] {settings : StoreSettings} {cluster cluster' : Cluster} {r : Replicated} :
      cluster.keyspaces = ∅ → Replicated.openOn settings cluster = (.ok r, cluster') →
        Fresh (replicated r)

/-- The directory after an entry of a history. Without a cluster there are only operations. -/
def after : Backend → Event → Backend
  | memory m, .operation op => memory (op.run m).2
  | memory m, _ => memory m
  | replicated r, event => replicated (r.after event)

def afterAll (b : Backend) (events : List Event) : Backend :=
  events.foldl after b

variable {b : Backend} {nodes : NodeMap}

/-- What every allowed entry preserves, a history of allowed entries preserves. -/
theorem preserved_afterAll (property : Backend → Prop) {allowed : Event → Prop}
    (step : ∀ {b : Backend} {event : Event}, property b → allowed event → property (b.after event))
    (start : property b) {events : List Event} (permitted : ∀ event ∈ events, allowed event) :
    property (b.afterAll events) := by
  induction events generalizing b with
  | nil => exact start
  | cons event rest ih =>
      obtain ⟨first, later⟩ := List.forall_mem_cons.1 permitted
      exact ih (step start first) later

theorem Fresh.holds (fresh : b.Fresh) : b.Holds ∅ := by
  cases fresh with
  | memory => exact ⟨Memory.indexed_empty, rfl⟩
  | replicated empty opened =>
      obtain ⟨ready, blank, -⟩ := Replicated.ready_of_openOn empty opened
      exact ⟨ready, Replicated.consistent_empty blank,
        Replicated.nodesStored_empty fun table _ => blank table⟩

theorem run_memory (m : Memory) (op : Operation) :
    op.run (memory m) = ((op.run m).1, memory (op.run m).2) := by
  cases op <;> rfl

theorem run_replicated (r : Replicated) (op : Operation) :
    op.run (replicated r) = ((op.run r).1, replicated (op.run r).2) := by
  cases op <;> rfl

theorem after_operation (b : Backend) (op : Operation) :
    b.after (.operation op) = (op.run b).2 := by
  cases b with
  | memory m => rw [run_memory]; rfl
  | replicated r => rw [run_replicated]; rfl

theorem Holds.run (holds : b.Holds nodes) (op : Operation) :
    ∃ nodes', NodeChange nodes op nodes' ∧ (op.run b).2.Holds nodes' := by
  cases b with
  | memory m =>
      obtain ⟨indexed, rfl⟩ := holds
      rw [run_memory]
      exact ⟨_, m.nodeChange_run op, indexed.run op, rfl⟩
  | replicated r =>
      obtain ⟨⟨keyspace, ready⟩, consistent, stored⟩ := holds
      obtain ⟨nodes', change, stored'⟩ := Replicated.nodeChange_run ready consistent stored op
      have kept : (∃ keyspace', (op.run r).2.Ready keyspace') ∧ r.SameSwitches (op.run r).2 ∧
          Consistent (op.run r).2.contents :=
        Replicated.kept_consistent.run ready consistent trivial
      rw [run_replicated]
      exact ⟨nodes', change, kept.1, kept.2.2, stored'⟩

theorem Holds.after (holds : b.Holds nodes) (event : Event) :
    ∃ nodes', (b.after event).Holds nodes' ∧
      (nodes' = nodes ∨ ∃ op, event = .operation op ∧ NodeChange nodes op nodes') := by
  cases event with
  | operation op =>
      obtain ⟨nodes', change, holds'⟩ := holds.run op
      rw [after_operation]
      exact ⟨nodes', holds', Or.inr ⟨op, rfl, change⟩⟩
  | advance | failReads | failWrites =>
      refine ⟨nodes, ?_, Or.inl rfl⟩
      cases b with
      | memory m => exact holds
      | replicated r =>
          obtain ⟨⟨keyspace, ready⟩, consistent, stored⟩ := holds
          exact ⟨⟨keyspace, ready.stored, ready.orderly, ready.graces⟩, consistent, stored⟩

theorem Holds.noteLookup (holds : b.Holds nodes) : (Directory.noteLookup b).Holds nodes := by
  cases b with
  | memory m => exact holds
  | replicated r =>
      obtain ⟨⟨keyspace, ready⟩, consistent, stored⟩ := holds
      have same := Replicated.contents_noteRead r
      exact ⟨⟨keyspace, ready.noteRead⟩, same.symm ▸ consistent, same.symm ▸ stored⟩

/-! ### Look-ups -/

theorem Holds.shows (holds : b.Holds nodes) {hostname : String} {shown : Node}
    (found : Directory.getNode? hostname b = some shown) :
    ∃ record, nodes[hostname]? = some record ∧ shown.Shows record := by
  cases b with
  | memory m =>
      obtain ⟨-, rfl⟩ := holds
      exact ⟨shown, found, rfl⟩
  | replicated r =>
      obtain ⟨⟨keyspace, ready⟩, -, stored⟩ := holds
      exact Replicated.shows_of_node? ready stored found

theorem Holds.hostname_of_getNode? (holds : b.Holds nodes) {hostname : String} {shown : Node}
    (found : Directory.getNode? hostname b = some shown) : shown.hostname = hostname := by
  cases b with
  | memory m => exact holds.1.nodes.keyed hostname shown found
  | replicated r => exact Replicated.hostname_of_node? found

theorem getNode?_of_findNode {hostname : String} {found : Option Node}
    (h : Directory.findNode hostname b = .ok found) : Directory.getNode? hostname b = found := by
  cases b with
  | memory m => exact Except.ok.inj h
  | replicated r => exact Replicated.node?_of_fetchNode h

theorem getNode?_of_filter {hostname : String} {found : Option Node} {node : Node}
    {fits : Node → Bool} (read : Directory.findNode hostname b = .ok found)
    (kept : found.filter fits = some node) : Directory.getNode? hostname b = some node := by
  rw [getNode?_of_findNode read]
  exact (Option.filter_eq_some_iff.1 kept).1

/-- A node that is listed for a platform is the one that is shown under its hostname. -/
theorem Holds.getNode?_of_mem (holds : b.Holds nodes) {platform : String} {node : Node}
    (listed : node ∈ Directory.nodesForPlatform platform b) :
    Directory.getNode? node.hostname b = some node := by
  obtain ⟨hostname, found⟩ : ∃ hostname, Directory.getNode? hostname b = some node := by
    cases b with
    | memory m =>
        obtain ⟨hostname, -, found⟩ := List.mem_filterMap.1 listed
        exact ⟨hostname, found⟩
    | replicated r =>
        obtain ⟨hostname, -, found⟩ := List.mem_filterMap.1 listed
        exact ⟨hostname, found⟩
  rwa [holds.hostname_of_getNode? found]

theorem getNode?_noteLookup (b : Backend) (hostname : String) :
    Directory.getNode? hostname (Directory.noteLookup b) = Directory.getNode? hostname b := by
  cases b with
  | memory m => rfl
  | replicated r => exact Replicated.node?_noteRead r hostname

/-! ### Updates -/

/-- A node that cannot be read is not updated. -/
theorem Holds.updateNode_unread (holds : b.Holds nodes) {node : Node}
    (unread : Directory.getNode? node.hostname b = none) :
    (Directory.updateNode node b).2.Holds nodes := by
  cases b with
  | memory m =>
      obtain ⟨indexed, rfl⟩ := holds
      have absent : m.nodes.byHostname[node.hostname]? = none := unread
      have refused := indexed.nodes.update_eq node
      simp only [absent] at refused
      have after : (Directory.updateNode node (memory m)).2 =
          memory { m with nodes := (Memory.Nodes.update node m.nodes).2 } := rfl
      rw [after, refused]
      exact ⟨indexed, rfl⟩
  | replicated r =>
      obtain ⟨⟨keyspace, ready⟩, consistent, stored⟩ := holds
      -- The plan looks for the node as the look-up did, so it comes to no batch either.
      have unplanned (batch : Batch) : ¬ Plans (Replicated.planUpdateNode node) r batch :=
        fun planned => Replicated.node?_ne_none_of_plans ready stored planned unread
      obtain ⟨ready', -, hcontents⟩ := Replicated.follows_carryOut ready fun batch planned =>
        absurd planned (unplanned batch)
      rcases hcontents with unchanged | ⟨batch, planned, -⟩
      · exact ⟨ready', unchanged.symm ▸ consistent, unchanged.symm ▸ stored⟩
      · exact absurd planned (unplanned batch)

/-- An update that is answered has been made. -/
theorem Holds.updateNode_ok (holds : b.Holds nodes) {node answer : Node}
    (accepted : (Directory.updateNode node b).1 = .ok answer) :
    (Directory.updateNode node b).2.Holds (nodes.insert node.hostname node) := by
  obtain ⟨nodes', -, holds'⟩ := holds.run (.updateNode node)
  cases b with
  | memory m =>
      obtain ⟨indexed, rfl⟩ := holds
      refine ⟨holds'.1, ?_⟩
      have accepted : (Memory.Nodes.update node m.nodes).1 = .ok answer := accepted
      change (Memory.Nodes.update node m.nodes).2.byHostname = _
      unfold Memory.Nodes.update at accepted ⊢
      split at accepted
      · cases accepted
      · split at accepted
        · cases accepted
        · simp_all [Memory.Nodes.put]
  | replicated r =>
      obtain ⟨⟨keyspace, ready⟩, -, stored⟩ := holds
      exact ⟨holds'.1, holds'.2.1, Replicated.stored_of_updateNode_ok ready stored accepted⟩

end Backend

end Switchboard
