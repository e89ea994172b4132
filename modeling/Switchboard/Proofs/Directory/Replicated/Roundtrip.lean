import Switchboard.Columns.Runtime
import Switchboard.Proofs.Directory.Replicated.Platforms

/-! # What becomes of a node that is written

A node that is stored or updated reads back as it was, is listed under its platforms and
goes without a trace, exactly when the names of its platforms are plain and its hostname
has no entry left over under a name that is not.
-/

namespace Switchboard.Replicated

open Switchboard.Columns Switchboard.Maps Switchboard.Records
open Layout (readBack)

/-! ## Look-ups -/

section Reading

variable {r : Replicated} {faulty : String → Prop} {nodes : NodeMap}
  {listed : String → String → Prop}

theorem Live.getNode?_eq (live : r.Live) (tracked : NodesTracked faulty nodes listed r.contents)
    (hostname : String) :
    Directory.getNode? hostname r = (nodes[hostname]?).map readBack := by
  obtain ⟨keyspace, ready⟩ := live.ready
  exact node?_eq ready live.reads tracked.stored hostname

/-- The hostnames that a listing of nodes meets are those of registered nodes with an entry. -/
theorem Live.exists_mem_nodesForPlatform (live : r.Live)
    (tracked : NodesTracked faulty nodes listed r.contents) (platform hostname : String) :
    (∃ node ∈ Directory.nodesForPlatform platform r, node.hostname = hostname) ↔
      listed platform hostname ∧ (nodes[hostname]?).isSome := by
  obtain ⟨keyspace, ready⟩ := live.ready
  have hmem := mem_nodesForPlatform_iff ready live.reads tracked.stored tracked.lists platform
  constructor
  · rintro ⟨node, hin, rfl⟩
    obtain ⟨hname, hback⟩ := (hmem node).1 hin
    obtain ⟨record, known, -⟩ := Option.map_eq_some_iff.1 hback
    rw [known]
    exact ⟨hname, rfl⟩
  · intro ⟨hname, hsome⟩
    obtain ⟨record, known⟩ := Option.isSome_iff_exists.1 hsome
    have hkey := tracked.stored.keyed hostname record known
    subst hkey
    exact ⟨readBack record, (hmem _).2 ⟨hname, congrArg (Option.map readBack) known⟩, rfl⟩

theorem Live.mem_platforms (live : r.Live) (tracked : NodesTracked faulty nodes listed r.contents)
    (platform : String) :
    platform ∈ Directory.platforms r ↔ ∃ hostname, listed platform hostname := by
  obtain ⟨keyspace, ready⟩ := live.ready
  refine (ready.mem_rowKeys (by decide) live.reads (.all (some 1)) platform).trans ?_
  rw [Cells.selected_first_ne_nil]
  exact tracked.lists.ne_empty_iff platform

end Reading

/-! ## Commands -/

section Commands

variable {r r' : Replicated} {nodes : NodeMap} {listed : String → String → Prop}

/-- The entries whose history does not matter. -/
def anyHostname : String → Prop := fun _ => True

theorem Live.storeNode_ok (live : r.Live)
    (tracked : NodesTracked anyHostname nodes listed r.contents) {node : Node}
    (fresh : nodes[node.hostname]? = none)
    (free : ¬ IpTaken nodes node.ipAddress node.hostname) :
    ∃ r', Directory.storeNode node r = (.ok node, r') ∧ r'.Live ∧
      NodesTracked anyHostname (nodes.insert node.hostname node) (listedAfter listed node)
        r'.contents := by
  obtain ⟨keyspace, ready⟩ := live.ready
  have plan := planStoreNode_eq ready live.reads tracked.stored node
  simp only [fresh, if_neg free] at plan
  obtain ⟨after, hafter, live', hcontents⟩ := live.carryOut_of_write plan
    ((within_insertNode node).mono nodeTables_subset)
  refine ⟨after, hafter, live', ?_⟩
  rw [hcontents]
  exact tracked.create fresh free (Or.inl trivial)

theorem Live.updateNode_ok (live : r.Live)
    (tracked : NodesTracked anyHostname nodes listed r.contents) {previous node : Node}
    (known : nodes[node.hostname]? = some previous)
    (free : ¬ IpTaken nodes node.ipAddress node.hostname) :
    ∃ r', Directory.updateNode node r = (.ok node, r') ∧ r'.Live ∧
      NodesTracked anyHostname (nodes.insert node.hostname node) (listedAfter listed node)
        r'.contents := by
  obtain ⟨keyspace, ready⟩ := live.ready
  have plan := planUpdateNode_eq ready live.reads tracked.stored node
  simp only [known, if_neg free] at plan
  obtain ⟨after, hafter, live', hcontents⟩ := live.carryOut_of_write plan
    ((within_replaceNode (readBack previous) node).mono nodeTables_subset)
  refine ⟨after, hafter, live', ?_⟩
  rw [hcontents]
  exact tracked.replace known free (Or.inl trivial)

/-- A write of a node that is answered has put the node in its place. -/
theorem Live.writeNode_ok (live : r.Live)
    (tracked : NodesTracked anyHostname nodes listed r.contents) {node : Node} {op : Operation}
    (writes : WritesNode node op) {answer : Answer} (ok : op.run r = (.ok answer, r')) :
    r'.Live ∧ NodesTracked anyHostname (nodes.insert node.hostname node) (listedAfter listed node)
      r'.contents := by
  obtain ⟨keyspace, ready⟩ := live.ready
  rcases writes with rfl | rfl
  · have hrun : (Operation.storeNode node).run r =
        Operation.answer (.node ∘ some) (carryOut (planStoreNode node) r) := rfl
    rcases planStoreNode_cases ready live.reads tracked.stored node with ⟨fresh, free⟩ | ⟨e, he⟩
    · obtain ⟨after, hafter, live', tracked'⟩ := live.storeNode_ok tracked fresh free
      rw [hrun, show carryOut (planStoreNode node) r = _ from hafter] at ok
      cases ok
      exact ⟨live', tracked'⟩
    · rw [hrun, carryOut_of_error he] at ok
      cases ok
  · have hrun : (Operation.updateNode node).run r =
        Operation.answer (.node ∘ some) (carryOut (planUpdateNode node) r) := rfl
    rcases planUpdateNode_cases ready live.reads tracked.stored node with
      ⟨previous, known, free⟩ | ⟨e, he⟩
    · obtain ⟨after, hafter, live', tracked'⟩ := live.updateNode_ok tracked known free
      rw [hrun, show carryOut (planUpdateNode node) r = _ from hafter] at ok
      cases ok
      exact ⟨live', tracked'⟩
    · rw [hrun, carryOut_of_error he] at ok
      cases ok

/-- The removal of a registered node answers the node that its row reads back as. -/
theorem Live.removeNode_ok (live : r.Live)
    (tracked : NodesTracked anyHostname nodes listed r.contents) {node : Node}
    (known : nodes[node.hostname]? = some node) :
    ∃ r', Directory.removeNode node.hostname r = (.ok (readBack node), r') ∧ r'.Live ∧
      NodesTracked anyHostname (nodes.erase node.hostname)
        (fun platform hostname =>
          ¬ (platform ∈ (readBack node).platforms ∧ hostname = node.hostname) ∧
            listed platform hostname) r'.contents := by
  obtain ⟨keyspace, ready⟩ := live.ready
  have plan := planRemoveNode_eq ready live.reads tracked.stored node.hostname
  simp only [known] at plan
  obtain ⟨after, hafter, live', hcontents⟩ := live.carryOut_of_write plan
    ((within_dropNode (readBack node)).mono nodeTables_subset)
  refine ⟨after, hafter, live', ?_⟩
  rw [hcontents]
  exact tracked.remove known

end Commands

/-! ## Nodes that are kept as they are -/

/-- The directory keeps all of a node that it has taken: the record, the platforms that it is
listed under, and what goes with the node when it is removed. -/
structure KeepsWhole (r : Replicated) (node : Node) : Prop where
  record : Directory.getNode? node.hostname r = some node
  listed : ∀ platform,
    (∃ n ∈ Directory.nodesForPlatform platform r, n.hostname = node.hostname) ↔
      platform ∈ node.platforms
  removed : ∃ r', Directory.removeNode node.hostname r = (.ok node, r') ∧
    ∀ platform, (∃ n ∈ Directory.nodesForPlatform platform r, n.hostname = node.hostname) →
      (∀ n ∈ Directory.nodesForPlatform platform r, n.hostname = node.hostname) →
        platform ∉ Directory.platforms r'

def NoFaultyEntries (r : Replicated) (hostname : String) : Prop :=
  ∀ platform value, (r.contents Layout.platforms platform)[hostname]? = some value →
    PlainName platform

section Whole

variable {r r' : Replicated} {nodes : NodeMap} {listed : String → String → Prop} {node : Node}

theorem noFaultyEntries_iff (tracked : NodesTracked anyHostname nodes listed r.contents)
    (hostname : String) :
    r.NoFaultyEntries hostname ↔ ∀ platform, listed platform hostname → PlainName platform := by
  constructor
  · intro h platform hlisted
    obtain ⟨value, hcell⟩ := (tracked.lists.exists_iff platform hostname).2 hlisted
    exact h platform value hcell
  · intro h platform value hcell
    exact h platform ((tracked.lists.exists_iff platform hostname).1 ⟨value, hcell⟩)

section Written

variable (live : r'.Live)
  (tracked : NodesTracked anyHostname (nodes.insert node.hostname node) (listedAfter listed node)
    r'.contents)

include live tracked

theorem getNode?_written : Directory.getNode? node.hostname r' = some (readBack node) := by
  rw [live.getNode?_eq tracked, Maps.getElem?_insert, if_pos rfl]
  rfl

theorem listed_written (platform : String) :
    (∃ n ∈ Directory.nodesForPlatform platform r', n.hostname = node.hostname) ↔
      platform ∈ node.platforms ∨ (¬ PlainName platform ∧ listed platform node.hostname) := by
  rw [live.exists_mem_nodesForPlatform tracked, Maps.getElem?_insert, if_pos rfl, listedAfter,
    if_pos rfl]
  simp

/-- After the removal of a node a platform is not listed any more that was its own and only its
own: under a plain name the entry of another hostname is that of a registered node. -/
theorem removed_written (tracks : Tracks anyHostname nodes listed) (plain : node.HasPlainNames) :
    ∃ after, Directory.removeNode node.hostname r' = (.ok node, after) ∧
      ∀ platform ∈ node.platforms,
        (∀ n ∈ Directory.nodesForPlatform platform r', n.hostname = node.hostname) →
          platform ∉ Directory.platforms after := by
  have known : (nodes.insert node.hostname node)[node.hostname]? = some node := by
    rw [Maps.getElem?_insert, if_pos rfl]
  obtain ⟨after, hafter, live', tracked'⟩ := live.removeNode_ok tracked known
  rw [Layout.readBack_eq_self_iff.2 plain] at hafter tracked'
  refine ⟨after, hafter, fun platform hplatform sole hin => ?_⟩
  obtain ⟨other, hother⟩ := (live'.mem_platforms tracked' platform).1 hin
  have hne : other ≠ node.hostname := fun he => hother.1 ⟨hplatform, he⟩
  have hentry := hother.2
  have hold : listed platform other := by
    rw [listedAfter, if_neg hne] at hentry
    exact hentry
  obtain ⟨record, hrecord, -⟩ := (tracks.plain platform other (plain platform hplatform)).1 hold
  have hknown : ((nodes.insert node.hostname node)[other]?).isSome := by
    rw [Maps.getElem?_insert, if_neg (Ne.symm hne), hrecord]
    rfl
  obtain ⟨n, hn, hkey⟩ :=
    (live.exists_mem_nodesForPlatform tracked platform other).2 ⟨hentry, hknown⟩
  exact hne (hkey.symm.trans (sole n hn))

/-- After a node is written, it is kept whole exactly when nothing about its platforms is other
than plain. -/
theorem keepsWhole_iff (tracks : Tracks anyHostname nodes listed) :
    r'.KeepsWhole node ↔
      node.HasPlainNames ∧ ∀ platform, listed platform node.hostname → PlainName platform := by
  have hrecord := getNode?_written live tracked
  have hlisted := listed_written live tracked
  constructor
  · intro whole
    have back : some (readBack node) = some node := hrecord.symm.trans whole.record
    have plain := Layout.readBack_eq_self_iff.1 (Option.some.inj back)
    refine ⟨plain, fun platform hold => ?_⟩
    by_cases hp : PlainName platform
    · exact hp
    · exact plain platform ((whole.listed platform).1 ((hlisted platform).2 (Or.inr ⟨hp, hold⟩)))
  · intro ⟨plain, clean⟩
    have hserves (platform : String) :
        (∃ n ∈ Directory.nodesForPlatform platform r', n.hostname = node.hostname) ↔
          platform ∈ node.platforms := by
      rw [hlisted]
      constructor
      · intro h
        rcases h with hin | ⟨hp, hold⟩
        · exact hin
        · exact absurd (clean platform hold) hp
      · exact Or.inl
    rw [Layout.readBack_eq_self_iff.2 plain] at hrecord
    obtain ⟨after, hafter, gone⟩ := removed_written live tracked tracks plain
    refine ⟨hrecord, hserves, after, hafter, fun platform here sole => ?_⟩
    exact gone platform ((hserves platform).1 here) sole

end Written

end Whole

/-! ## After every history -/

section History

variable [Timer] {settings : StoreSettings} {cluster cluster' : Cluster} {start : Replicated}

/-- The entries of the platform table after a history in which only faulty hostnames are written
with names that are not plain. -/
theorem tracked_afterAll (empty : cluster.keyspaces = ∅)
    (opened : openOn settings cluster = (.ok start, cluster')) {faulty : String → Prop}
    {events : List Event} (blamed : ∀ op, .operation op ∈ events → Blamed faulty op) :
    (∃ keyspace, (start.afterAll events).Ready keyspace) ∧
      ∃ nodes listed, NodesTracked faulty nodes listed (start.afterAll events).contents := by
  obtain ⟨⟨keyspace, ready⟩, hempty, -⟩ := ready_of_openOn empty opened
  have fresh : Tracked faulty start.contents :=
    ⟨consistent_empty hempty, ∅, fun _ _ => False, nodesTracked_empty hempty⟩
  obtain ⟨ready', tracked⟩ := kept_tracked.afterAll ready fresh blamed
  exact ⟨ready', tracked.2⟩

/-- A node that is taken after a history is kept whole exactly when its platforms have plain names
and no faulty entry of its hostname is left over; and there is none as long as every node written
under the hostname had plain names. -/
theorem node_kept_whole_iff (empty : cluster.keyspaces = ∅)
    (opened : openOn settings cluster = (.ok start, cluster')) (events : List Event)
    (reads : (start.afterAll events).cluster.failReads = false)
    (writes : (start.afterAll events).cluster.failWrites = false) {node : Node} {op : Operation}
    (written : WritesNode node op) {answer : Answer} {r' : Replicated}
    (ok : op.run (start.afterAll events) = (.ok answer, r')) :
    (r'.KeepsWhole node ↔
      node.HasPlainNames ∧ (start.afterAll events).NoFaultyEntries node.hostname) ∧
    ((∀ op, .operation op ∈ events → ∀ other, WritesNode other op →
        other.hostname = node.hostname → other.HasPlainNames) →
      (start.afterAll events).NoFaultyEntries node.hostname) := by
  constructor
  · have blamed : ∀ op, .operation op ∈ events → Blamed anyHostname op :=
      fun op _ other _ => Or.inl trivial
    obtain ⟨ready, nodes, listed, tracked⟩ := tracked_afterAll empty opened blamed
    have live : (start.afterAll events).Live := ⟨ready, reads, writes⟩
    obtain ⟨live', tracked'⟩ := live.writeNode_ok tracked written ok
    rw [keepsWhole_iff live' tracked' tracked.tracks, noFaultyEntries_iff tracked]
  · intro plain platform value hcell
    have blamed : ∀ op, .operation op ∈ events → Blamed (· ≠ node.hostname) op := by
      intro op hop other hwrites
      by_cases hk : other.hostname = node.hostname
      · exact Or.inr (plain op hop other hwrites hk)
      · exact Or.inl hk
    obtain ⟨-, nodes, listed, tracked⟩ := tracked_afterAll empty opened blamed
    have hlisted := (tracked.lists.exists_iff platform node.hostname).1 ⟨value, hcell⟩
    rcases tracked.tracks.blame platform node.hostname hlisted with hplain | hne
    · exact hplain
    · exact absurd rfl hne

end History

/-- A comma in the name of a platform is taken for a separator when the node is read back. -/
theorem node_with_comma_not_kept_whole :
    let node : Node := ⟨"h", "10.0.0.1", Std.ExtTreeSet.ofList ["a,b"], 1, 1, 0, false⟩
    ∃ start r', openOn {} {} = (.ok start, start.cluster) ∧
      (Operation.storeNode node).run start = (.ok (.node (some node)), r') ∧
        ¬ r'.KeepsWhole node := by
  intro node
  have empty : ({} : Cluster).keyspaces = ∅ := rfl
  have reached : Cluster.connect ({} : StoreSettings).host ({} : StoreSettings).port = .ok () := rfl
  obtain ⟨start, keyspace, opened, ready, hempty, same⟩ := openOn_of_connect empty reached
  have live : start.Live := ⟨⟨keyspace, ready⟩, same.failReads, same.failWrites⟩
  have tracked : NodesTracked anyHostname ∅ (fun _ _ => False) start.contents :=
    nodesTracked_empty hempty
  have free : ¬ IpTaken ∅ node.ipAddress node.hostname := by
    intro ⟨owner, _, record, known, _⟩
    simp at known
  obtain ⟨r', hr', -⟩ := live.storeNode_ok tracked (by simp) free
  have ok : (Operation.storeNode node).run start = (.ok (.node (some node)), r') := by
    rw [Operation.run, hr']
    rfl
  refine ⟨start, r', opened, ok, fun whole => ?_⟩
  have plain := ((node_kept_whole_iff empty opened [] live.reads live.writes (Or.inl rfl) ok).1.1
    whole).1
  exact (plain "a,b" (by simp [node])).2 (by decide)

end Switchboard.Replicated
