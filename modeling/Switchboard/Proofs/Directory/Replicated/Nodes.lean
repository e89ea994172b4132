import Switchboard.Proofs.Directory.Records
import Switchboard.Proofs.Directory.Replicated.Codec

/-! # Nodes in the tables

The node tables hold the rows of node records and one row for each IP address. The
platform table lists what the batches wrote to it: a node is taken off the platforms
that its row reads back with, which are its own only when they have plain names.
-/

namespace Switchboard.Replicated

open Switchboard.Columns Switchboard.Maps Switchboard.Records
open Layout (readBack nodeCells)

def nodeTables : List String := [Layout.nodes, Layout.platforms, Layout.ips]

theorem nodeTables_subset : nodeTables ⊆ tableNames := by decide

structure NodesStored (nodes : NodeMap) (contents : Contents) : Prop where
  keyed : Keyed Node.hostname nodes
  rows : ∀ hostname, contents Layout.nodes hostname = (nodes[hostname]?).elim ∅ nodeCells
  ips : contents.Points Layout.ips "node" (HoldsIp nodes)

section Stored

variable {nodes : NodeMap} {contents contents' : Contents}

theorem NodesStored.of_contents_eq (stored : NodesStored nodes contents)
    (same : ∀ table ∈ nodeTables, contents' table = contents table) :
    NodesStored nodes contents' where
  keyed := stored.keyed
  rows := by
    intro hostname
    rw [same Layout.nodes (by decide)]
    exact stored.rows hostname
  ips := stored.ips.of_contents_eq (same Layout.ips (by decide))

theorem nodesStored_empty (empty : ∀ table ∈ nodeTables, ∀ key, contents table key = ∅) :
    NodesStored ∅ contents where
  keyed := Keyed.empty
  rows := by
    intro hostname
    rw [empty Layout.nodes (by decide)]
    simp
  ips := by
    intro key name value
    rw [empty Layout.ips (by decide)]
    simp [HoldsIp, At]

theorem NodesStored.ipsUnique (stored : NodesStored nodes contents) : IpsUnique nodes :=
  fun _ _ _ h h' => stored.ips.unique h h'

/-! ## Batches -/

def insertNodeRows (node : Node) : Batch :=
  (Layout.insertNode node).take 7

theorem insertNode_eq (node : Node) :
    Layout.insertNode node = insertNodeRows node ++
      node.platforms.toList.map fun platform =>
        .insert Layout.platforms platform node.hostname node.hostname := rfl

theorem within_insertNodeRows (node : Node) :
    Contents.Within [Layout.nodes, Layout.ips] (insertNodeRows node) :=
  Contents.within_of_subset
    (show List.replicate 6 Layout.nodes ++ [Layout.ips] ⊆ [Layout.nodes, Layout.ips] by decide)

theorem within_joinPlatforms (node : Node) :
    Contents.Within [Layout.platforms] (node.platforms.toList.map fun platform =>
      .insert Layout.platforms platform node.hostname node.hostname) :=
  Contents.within_map (fun _ => List.mem_singleton_self Layout.platforms) _

theorem within_insertNode (node : Node) :
    Contents.Within nodeTables (Layout.insertNode node) := by
  rw [insertNode_eq]
  have rows := (within_insertNodeRows node).mono
    (show [Layout.nodes, Layout.ips] ⊆ nodeTables by decide)
  exact rows.append ((within_joinPlatforms node).mono (by decide))

theorem within_leavePlatforms (hostname : String) (platforms : List String) :
    Contents.Within [Layout.platforms] (Layout.leavePlatforms hostname platforms) :=
  Contents.within_map (fun _ => List.mem_singleton_self Layout.platforms) platforms

theorem insertNode_of_other_table (contents : Contents) (node : Node) {table : String}
    (h : table ∉ [Layout.platforms]) :
    contents.applyAll (Layout.insertNode node) table =
      contents.applyAll (insertNodeRows node) table := by
  rw [insertNode_eq, Contents.applyAll_append]
  exact (within_joinPlatforms node).applyAll_eq _ h

theorem insertNodeRows_nodes (contents : Contents) (node : Node) (hostname : String) :
    contents.applyAll (insertNodeRows node) Layout.nodes hostname =
      if node.hostname = hostname then
        Layout.writeNode (contents Layout.nodes node.hostname) node
      else contents Layout.nodes hostname := by
  have hne : ¬ Layout.ips = Layout.nodes := by decide
  by_cases hk : node.hostname = hostname
  · simp [insertNodeRows, Layout.insertNode, Contents.apply, Contents.set, hk, hne,
      Layout.writeNode]
  · simp [insertNodeRows, Layout.insertNode, Contents.apply, Contents.set, hk, hne]

theorem insertNodeRows_ips (contents : Contents) (node : Node) :
    contents.applyAll (insertNodeRows node) Layout.ips =
      contents.apply (.insert Layout.ips node.ipAddress "node" node.hostname) Layout.ips := by
  have hne : ¬ Layout.nodes = Layout.ips := by decide
  funext key
  simp [insertNodeRows, Layout.insertNode, Contents.apply, Contents.set, hne]

theorem lists_insertNode {listed : String → String → Prop}
    (h : contents.Lists Layout.platforms listed) (node : Node) :
    (contents.applyAll (Layout.insertNode node)).Lists Layout.platforms
      fun platform hostname =>
        (platform ∈ node.platforms ∧ hostname = node.hostname) ∨ listed platform hostname := by
  have hrows : (contents.applyAll (insertNodeRows node)).Lists Layout.platforms listed :=
    h.of_contents_eq ((within_insertNodeRows node).applyAll_eq contents (by decide))
  rw [insertNode_eq, Contents.applyAll_append]
  apply (hrows.insertAll node.platforms.toList node.hostname).congr
  intro platform hostname
  rw [Std.ExtTreeSet.mem_toList]

theorem lists_leavePlatforms {listed : String → String → Prop}
    (h : contents.Lists Layout.platforms listed) (hostname : String) (platforms : List String) :
    (contents.applyAll (Layout.leavePlatforms hostname platforms)).Lists Layout.platforms
      fun platform name => ¬ (platform ∈ platforms ∧ name = hostname) ∧ listed platform name :=
  h.deleteAll platforms hostname

/-- A node is written to a row that is free or its own, when its IP address is free or its own and
the one it gives up is gone. -/
theorem NodesStored.insertNode (stored : NodesStored nodes contents) {node : Node}
    (free : ¬ IpTaken nodes node.ipAddress node.hostname)
    (rows : contents' Layout.nodes = contents Layout.nodes)
    (ips : contents'.Points Layout.ips "node" fun ip hostname =>
      ¬ (HoldsIp nodes ip node.hostname ∧ ip ≠ node.ipAddress) ∧ HoldsIp nodes ip hostname) :
    NodesStored (nodes.insert node.hostname node)
      (contents'.applyAll (Layout.insertNode node)) where
  keyed := stored.keyed.insert node
  rows := by
    intro hostname
    rw [insertNode_of_other_table contents' node (by decide), insertNodeRows_nodes, rows,
      Maps.getElem?_insert]
    by_cases hk : node.hostname = hostname
    · rw [if_pos hk, if_pos hk, Option.elim_some, stored.rows]
      cases nodes[node.hostname]? with
      | none => rfl
      | some old => exact Layout.writeNode_nodeCells old node
    · rw [if_neg hk, if_neg hk]
      exact stored.rows hostname
  ips := by
    have written := ips.insert node.ipAddress node.hostname
    have same : contents'.applyAll (Layout.insertNode node) Layout.ips =
        contents'.apply (.insert Layout.ips node.ipAddress "node" node.hostname) Layout.ips := by
      rw [insertNode_of_other_table contents' node (by decide), insertNodeRows_ips]
    apply (written.of_contents_eq same).congr
    intro ip hostname
    rw [holdsIp_insert_iff stored.ipsUnique free]
    by_cases hip : node.ipAddress = ip
    · rw [if_pos hip, if_pos hip]
    · rw [if_neg hip, if_neg hip]
      simp [Ne.symm hip]

/-- The changes that free the IP address of a node that moves to another. -/
def releaseIp (previous node : Node) : Batch :=
  if previous.ipAddress ≠ node.ipAddress then [.deleteRow Layout.ips previous.ipAddress] else []

def replaceNode (previous node : Node) : Batch :=
  releaseIp previous node ++
    Layout.leavePlatforms node.hostname
      (previous.platforms.toList.filter fun p => !node.serves p) ++
    Layout.insertNode node

def dropNode (node : Node) : Batch :=
  .deleteRow Layout.ips node.ipAddress ::
    (Layout.leavePlatforms node.hostname node.platforms.toList ++
      [.deleteRow Layout.nodes node.hostname])

theorem within_releaseIp (previous node : Node) :
    Contents.Within [Layout.ips] (releaseIp previous node) := by
  unfold releaseIp
  split
  · exact Contents.within_of_subset (List.Subset.refl [Layout.ips])
  · exact Contents.within_of_subset (List.nil_subset _)

theorem within_replaceNode (previous node : Node) :
    Contents.Within nodeTables (replaceNode previous node) := by
  have released := (within_releaseIp previous node).mono
    (show [Layout.ips] ⊆ nodeTables by decide)
  have left := (within_leavePlatforms node.hostname
    (previous.platforms.toList.filter fun p => !node.serves p)).mono
      (show [Layout.platforms] ⊆ nodeTables by decide)
  exact (released.append left).append (within_insertNode node)

theorem within_dropNode (node : Node) : Contents.Within nodeTables (dropNode node) := by
  have ip : Contents.Within nodeTables [.deleteRow Layout.ips node.ipAddress] :=
    Contents.within_of_subset (show [Layout.ips] ⊆ nodeTables by decide)
  have left := (within_leavePlatforms node.hostname node.platforms.toList).mono
    (show [Layout.platforms] ⊆ nodeTables by decide)
  have row : Contents.Within nodeTables [.deleteRow Layout.nodes node.hostname] :=
    Contents.within_of_subset (show [Layout.nodes] ⊆ nodeTables by decide)
  exact ip.append (left.append row)

theorem holdsIp_of_some {node : Node} {hostname : String} (known : nodes[hostname]? = some node)
    (ip : String) : HoldsIp nodes ip hostname ↔ node.ipAddress = ip :=
  at_of_some known _

/-- A new node with a free IP address. -/
theorem NodesStored.create (stored : NodesStored nodes contents) {node : Node}
    (fresh : nodes[node.hostname]? = none)
    (free : ¬ IpTaken nodes node.ipAddress node.hostname) :
    NodesStored (nodes.insert node.hostname node)
      (contents.applyAll (Layout.insertNode node)) := by
  apply stored.insertNode free rfl
  apply stored.ips.congr
  intro ip hostname
  have none : ¬ HoldsIp nodes ip node.hostname := not_at_of_none fresh _
  simp [none]

theorem points_releaseIp {points : String → String → Prop}
    (h : contents.Points Layout.ips "node" points) (previous node : Node) :
    (contents.applyAll (releaseIp previous node)).Points Layout.ips "node" fun ip hostname =>
      ¬ (previous.ipAddress = ip ∧ ip ≠ node.ipAddress) ∧ points ip hostname := by
  unfold releaseIp
  by_cases hmoves : previous.ipAddress = node.ipAddress
  · rw [if_neg (by simpa using hmoves)]
    refine h.congr fun ip hostname => ?_
    rw [hmoves]
    grind
  · rw [if_pos hmoves]
    refine (h.deleteRow previous.ipAddress).congr fun ip hostname => ?_
    grind

/-- A node in place of the one with its hostname. -/
theorem NodesStored.replace (stored : NodesStored nodes contents) {previous node : Node}
    (known : nodes[node.hostname]? = some previous)
    (free : ¬ IpTaken nodes node.ipAddress node.hostname) :
    NodesStored (nodes.insert node.hostname node)
      (contents.applyAll (replaceNode (readBack previous) node)) := by
  have hip : (readBack previous).ipAddress = previous.ipAddress := rfl
  rw [replaceNode, Contents.applyAll_append, Contents.applyAll_append]
  apply stored.insertNode free
  · rw [(within_leavePlatforms _ _).applyAll_eq _ (by decide),
      (within_releaseIp _ _).applyAll_eq _ (by decide)]
  · have released := points_releaseIp stored.ips (readBack previous) node
    have kept := (within_leavePlatforms node.hostname
      ((readBack previous).platforms.toList.filter fun p => !node.serves p)).applyAll_eq
        (contents.applyAll (releaseIp (readBack previous) node))
        (show Layout.ips ∉ [Layout.platforms] by decide)
    refine (released.of_contents_eq kept).congr fun ip hostname => ?_
    rw [holdsIp_of_some known, hip]

theorem NodesStored.remove (stored : NodesStored nodes contents) {node : Node}
    (known : nodes[node.hostname]? = some node) :
    NodesStored (nodes.erase node.hostname)
      (contents.applyAll (dropNode (readBack node))) := by
  have hip : (readBack node).ipAddress = node.ipAddress := rfl
  have hkey : (readBack node).hostname = node.hostname := rfl
  rw [dropNode, hip, hkey, Contents.applyAll_cons, Contents.applyAll_append]
  refine ⟨stored.keyed.erase node.hostname, ?_, ?_⟩
  · intro hostname
    rw [Contents.applyAll_cons, Contents.applyAll_nil, Contents.apply, Contents.set,
      (within_leavePlatforms _ _).applyAll_eq _ (by decide), Maps.getElem?_erase]
    by_cases hk : node.hostname = hostname
    · simp [hk]
    · rw [if_neg (fun h => hk h.2), if_neg hk, Contents.apply_of_table_ne]
      · exact stored.rows hostname
      · simp [Mutation.table, Layout.ips, Layout.nodes]
  · have gone := stored.ips.deleteRow node.ipAddress
    refine Contents.Points.congr (Contents.Points.of_contents_eq gone ?_) ?_
    · rw [Contents.applyAll_cons, Contents.applyAll_nil, Contents.apply_of_table_ne,
        (within_leavePlatforms _ _).applyAll_eq _ (by decide)]
      simp [Mutation.table, Layout.ips, Layout.nodes]
    · intro ip hostname
      rw [holdsIp_erase_iff stored.ipsUnique, holdsIp_of_some known]

/-! ## Listed platforms -/

variable {listed : String → String → Prop}

/-- A node that takes another's place is listed under its own platforms, and wherever the other
was listed without reading back with the platform. -/
theorem lists_replaceNode (h : contents.Lists Layout.platforms listed) (previous node : Node) :
    (contents.applyAll (replaceNode previous node)).Lists Layout.platforms
      fun platform hostname =>
        (platform ∈ node.platforms ∧ hostname = node.hostname) ∨
          (¬ (platform ∈ previous.platforms ∧ hostname = node.hostname) ∧
            listed platform hostname) := by
  have unlisted : (contents.applyAll (releaseIp previous node)).Lists Layout.platforms listed :=
    h.of_contents_eq ((within_releaseIp previous node).applyAll_eq contents (by decide))
  rw [replaceNode, Contents.applyAll_append, Contents.applyAll_append]
  have written := lists_insertNode (lists_leavePlatforms unlisted node.hostname
    (previous.platforms.toList.filter fun p => !node.serves p)) node
  refine written.congr fun platform hostname => ?_
  simp only [List.mem_filter, Std.ExtTreeSet.mem_toList, Node.serves, Bool.not_eq_true',
    ← Bool.not_eq_true, Std.ExtTreeSet.contains_iff_mem]
  grind

theorem lists_dropNode (h : contents.Lists Layout.platforms listed) (node : Node) :
    (contents.applyAll (dropNode node)).Lists Layout.platforms fun platform hostname =>
      ¬ (platform ∈ node.platforms ∧ hostname = node.hostname) ∧ listed platform hostname := by
  have free : (contents.apply (.deleteRow Layout.ips node.ipAddress)).Lists Layout.platforms
      listed := by
    refine h.of_contents_eq (Contents.apply_of_table_ne contents ?_)
    simp [Mutation.table, Layout.ips, Layout.platforms]
  have left := lists_leavePlatforms free node.hostname node.platforms.toList
  rw [dropNode, Contents.applyAll_cons, Contents.applyAll_append]
  have gone : ((contents.apply (.deleteRow Layout.ips node.ipAddress)).applyAll
      (Layout.leavePlatforms node.hostname node.platforms.toList)).applyAll
        [.deleteRow Layout.nodes node.hostname] Layout.platforms =
      (contents.apply (.deleteRow Layout.ips node.ipAddress)).applyAll
        (Layout.leavePlatforms node.hostname node.platforms.toList) Layout.platforms := by
    rw [Contents.applyAll_cons, Contents.applyAll_nil]
    refine Contents.apply_of_table_ne _ ?_
    simp [Mutation.table, Layout.nodes, Layout.platforms]
  refine (left.of_contents_eq gone).congr fun platform hostname => ?_
  rw [Std.ExtTreeSet.mem_toList]

end Stored

/-! ## Reads -/

section Reading

variable {r : Replicated} {keyspace : Keyspace} {nodes : NodeMap}

theorem fetchNode_eq (ready : r.Ready keyspace) (reads : r.cluster.failReads = false)
    (stored : NodesStored nodes r.contents) (hostname : String) :
    r.fetchNode hostname = .ok ((nodes[hostname]?).map readBack) := by
  rw [fetchNode, ready.fetch_of_reads (by decide) reads, stored.rows]
  cases known : nodes[hostname]? with
  | none => simp [Except.map, Layout.node?_empty]
  | some node =>
      have hkey := stored.keyed hostname node known
      subst hkey
      simp [Except.map, Layout.node?_nodeCells]

theorem node?_eq (ready : r.Ready keyspace) (reads : r.cluster.failReads = false)
    (stored : NodesStored nodes r.contents) (hostname : String) :
    r.node? hostname = (nodes[hostname]?).map readBack := by
  have fetched := fetchNode_eq ready reads stored hostname
  rw [fetchNode, ready.fetch_of_reads (by decide) reads] at fetched
  rw [node?, ready.columns_eq (by decide) reads]
  simpa [Except.map] using fetched

theorem hostname_of_node? {hostname : String} {shown : Node}
    (found : r.node? hostname = some shown) : shown.hostname = hostname := by
  unfold node? Layout.node? at found
  split at found
  · cases found
  · cases found
    rfl

theorem nodesForPlatform_eq_nil_of_failReads (ready : r.Ready keyspace)
    (fails : r.cluster.failReads = true) (platform : String) :
    Directory.nodesForPlatform platform r = [] := by
  obtain ⟨e, unread⟩ := ready.fetch_of_failReads (show Layout.platforms ∈ tableNames by decide)
    fails platform
  have unlisted : r.columnNames Layout.platforms platform = [] := by
    simp [columnNames, columns, unread]
  change (r.columnNames Layout.platforms platform).filterMap r.node? = []
  rw [unlisted, List.filterMap_nil]

/-- A listing shows the records of the nodes that have an entry. -/
theorem mem_nodesForPlatform_iff (ready : r.Ready keyspace) (reads : r.cluster.failReads = false)
    (stored : NodesStored nodes r.contents) {listed : String → String → Prop}
    (lists : r.contents.Lists Layout.platforms listed) (platform : String) (node : Node) :
    node ∈ Directory.nodesForPlatform platform r ↔
      listed platform node.hostname ∧ (nodes[node.hostname]?).map readBack = some node := by
  have names (hostname : String) :
      hostname ∈ r.columnNames Layout.platforms platform ↔ listed platform hostname := by
    rw [ready.mem_columnNames (by decide) reads, lists.exists_iff]
  refine List.mem_filterMap.trans ?_
  rw [← node?_eq ready reads stored]
  constructor
  · rintro ⟨hostname, entry, shown⟩
    obtain rfl := hostname_of_node? shown
    exact ⟨(names _).1 entry, shown⟩
  · rintro ⟨entry, shown⟩
    exact ⟨node.hostname, (names _).2 entry, shown⟩

theorem ipOwner_eq_some_iff (stored : NodesStored nodes r.contents) (ip owner : String) :
    (r.contents Layout.ips ip)["node"]? = some owner ↔ HoldsIp nodes ip owner := by
  simpa using stored.ips ip "node" owner

open Classical in
theorem checkIp_eq (ready : r.Ready keyspace) (reads : r.cluster.failReads = false)
    (stored : NodesStored nodes r.contents) (ip hostname : String) :
    r.checkIp ip hostname =
      if IpTaken nodes ip hostname then .error (.alreadyExists .node ip) else .ok () := by
  rw [checkIp, ready.fetch_of_reads (by decide) reads]
  simp only [ok_bind, column?_columns]
  cases howner : (r.contents Layout.ips ip)["node"]? with
  | none =>
      have free : ¬ IpTaken nodes ip hostname := by
        rintro ⟨owner, -, held⟩
        rw [← ipOwner_eq_some_iff stored, howner] at held
        cases held
      rw [if_neg free]
      rfl
  | some owner =>
      have held := (ipOwner_eq_some_iff stored ip owner).1 howner
      by_cases he : owner = hostname
      · have free : ¬ IpTaken nodes ip hostname := by
          rintro ⟨other, hne, hother⟩
          exact hne ((stored.ipsUnique ip _ _ hother held).trans he)
        rw [if_neg free]
        simp [he]
        rfl
      · rw [if_pos ⟨owner, he, held⟩]
        simp [he]
        rfl

/-! ## Plans -/

open Classical in
theorem planStoreNode_eq (ready : r.Ready keyspace) (reads : r.cluster.failReads = false)
    (stored : NodesStored nodes r.contents) (node : Node) :
    planStoreNode node r =
      match nodes[node.hostname]? with
      | some _ => .error (.alreadyExists .node node.hostname)
      | none =>
        if IpTaken nodes node.ipAddress node.hostname then
          .error (.alreadyExists .node node.ipAddress)
        else .ok (.write (Layout.insertNode node)
          s!"Could not create node [{node.hostname}]" node) := by
  rw [planStoreNode, fetchNode_eq ready reads stored]
  cases nodes[node.hostname]? with
  | some previous => rfl
  | none =>
      simp only [Option.map_none, Option.isSome_none, Bool.false_eq_true, if_false, ok_bind]
      rw [checkIp_eq ready reads stored]
      split <;> rfl

open Classical in
theorem planUpdateNode_eq (ready : r.Ready keyspace) (reads : r.cluster.failReads = false)
    (stored : NodesStored nodes r.contents) (node : Node) :
    planUpdateNode node r =
      match nodes[node.hostname]? with
      | none => .error (.notFound .node node.hostname)
      | some previous =>
        if IpTaken nodes node.ipAddress node.hostname then
          .error (.alreadyExists .node node.ipAddress)
        else .ok (.write (replaceNode (readBack previous) node)
          s!"Could not update node [{node.hostname}]" node) := by
  rw [planUpdateNode, fetchNode_eq ready reads stored]
  cases nodes[node.hostname]? with
  | none => rfl
  | some previous =>
      simp only [Option.map_some, ok_bind]
      rw [checkIp_eq ready reads stored]
      split <;> rfl

theorem planRemoveNode_eq (ready : r.Ready keyspace) (reads : r.cluster.failReads = false)
    (stored : NodesStored nodes r.contents) (hostname : String) :
    planRemoveNode hostname r =
      match nodes[hostname]? with
      | none => .error (.notFound .node hostname)
      | some node => .ok (.write (dropNode (readBack node))
          s!"Could not remove node [{hostname}]" (readBack node)) := by
  rw [planRemoveNode, fetchNode_eq ready reads stored]
  cases known : nodes[hostname]? with
  | none => rfl
  | some node =>
      have hkey := stored.keyed hostname node known
      subst hkey
      rfl

theorem planStoreNode_cases (ready : r.Ready keyspace) (reads : r.cluster.failReads = false)
    (stored : NodesStored nodes r.contents) (node : Node) :
    (nodes[node.hostname]? = none ∧ ¬ IpTaken nodes node.ipAddress node.hostname) ∨
      ∃ e, planStoreNode node r = .error e := by
  rw [planStoreNode_eq ready reads stored]
  cases nodes[node.hostname]? with
  | some previous => exact Or.inr ⟨_, rfl⟩
  | none =>
      by_cases taken : IpTaken nodes node.ipAddress node.hostname
      · exact Or.inr ⟨_, if_pos taken⟩
      · exact Or.inl ⟨rfl, taken⟩

theorem planUpdateNode_cases (ready : r.Ready keyspace) (reads : r.cluster.failReads = false)
    (stored : NodesStored nodes r.contents) (node : Node) :
    (∃ previous, nodes[node.hostname]? = some previous ∧
        ¬ IpTaken nodes node.ipAddress node.hostname) ∨
      ∃ e, planUpdateNode node r = .error e := by
  rw [planUpdateNode_eq ready reads stored]
  cases nodes[node.hostname]? with
  | none => exact Or.inr ⟨_, rfl⟩
  | some previous =>
      by_cases taken : IpTaken nodes node.ipAddress node.hostname
      · exact Or.inr ⟨_, if_pos taken⟩
      · exact Or.inl ⟨previous, rfl, taken⟩

theorem plans_storeNode (ready : r.Ready keyspace) (stored : NodesStored nodes r.contents)
    {node : Node} {batch : Batch} (h : Plans (planStoreNode node) r batch) :
    nodes[node.hostname]? = none ∧ ¬ IpTaken nodes node.ipAddress node.hostname ∧
      batch = Layout.insertNode node := by
  have first (e : DirectoryError) (he : r.fetch Layout.nodes node.hostname = .error e) :
      planStoreNode node r = .error e := by
    rw [planStoreNode, fetchNode, he]
    rfl
  have reads := ready.reads_of_plans (by decide) first h
  obtain ⟨context, answer, hp⟩ := h
  rcases planStoreNode_cases ready reads stored node with ⟨fresh, free⟩ | ⟨e, he⟩
  · simp only [planStoreNode_eq ready reads stored, fresh, if_neg free] at hp
    cases hp
    exact ⟨fresh, free, rfl⟩
  · rw [he] at hp
    cases hp

/-- An update begins with a look at the node. -/
theorem planUpdateNode_of_unread {node : Node} {e : DirectoryError}
    (unread : r.fetch Layout.nodes node.hostname = .error e) :
    planUpdateNode node r = .error e := by
  rw [planUpdateNode, fetchNode, unread]
  rfl

theorem reads_of_plans_updateNode (ready : r.Ready keyspace) {node : Node} {batch : Batch}
    (h : Plans (planUpdateNode node) r batch) : r.cluster.failReads = false :=
  ready.reads_of_plans (by decide) (fun _ => planUpdateNode_of_unread) h

theorem plans_updateNode (ready : r.Ready keyspace) (stored : NodesStored nodes r.contents)
    {node : Node} {batch : Batch} (h : Plans (planUpdateNode node) r batch) :
    ∃ previous, nodes[node.hostname]? = some previous ∧
      ¬ IpTaken nodes node.ipAddress node.hostname ∧
        batch = replaceNode (readBack previous) node := by
  have reads := reads_of_plans_updateNode ready h
  obtain ⟨context, answer, hp⟩ := h
  rcases planUpdateNode_cases ready reads stored node with ⟨previous, known, free⟩ | ⟨e, he⟩
  · simp only [planUpdateNode_eq ready reads stored, known, if_neg free] at hp
    cases hp
    exact ⟨previous, known, free, rfl⟩
  · rw [he] at hp
    cases hp

theorem plans_removeNode (ready : r.Ready keyspace) (stored : NodesStored nodes r.contents)
    {hostname : String} {batch : Batch} (h : Plans (planRemoveNode hostname) r batch) :
    ∃ node, nodes[hostname]? = some node ∧ batch = dropNode (readBack node) := by
  have first (e : DirectoryError) (he : r.fetch Layout.nodes hostname = .error e) :
      planRemoveNode hostname r = .error e := by
    rw [planRemoveNode, fetchNode, he]
    rfl
  have reads := ready.reads_of_plans (by decide) first h
  obtain ⟨context, answer, hp⟩ := h
  rw [planRemoveNode_eq ready reads stored] at hp
  cases known : nodes[hostname]? with
  | none =>
      rw [known] at hp
      cases hp
  | some node =>
      rw [known] at hp
      cases hp
      exact ⟨node, rfl, rfl⟩

end Reading

end Switchboard.Replicated
