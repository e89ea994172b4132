import Switchboard.Proofs.Directory.Holding
import Switchboard.Proofs.Directory.Memory.Lookups

/-! # The nodes of a platform

The directory lists a node for a platform at most once. A change of one node leaves all
others on their platforms, whether or not it goes through.
-/

namespace Switchboard

open Switchboard.Columns Switchboard.Maps Switchboard.Records
open Replicated (NodesStored Consistent)
open Replicated.Layout (readBack)

/-! ## In memory -/

namespace Memory.Nodes

variable {nodes : Nodes} {written node : Node}

theorem Exact.mem_forPlatform_update (h : nodes.Exact) (other : node.hostname ≠ written.hostname)
    (platform : String) :
    node ∈ (Nodes.update written nodes).2.forPlatform platform ↔
      node ∈ nodes.forPlatform platform := by
  classical
  rw [h.update_eq]
  cases known : nodes.byHostname[written.hostname]? with
  | none => rfl
  | some previous =>
      by_cases taken : IpTaken nodes.byHostname written.ipAddress written.hostname
      · simp only [if_pos taken]
      · simp only [if_neg taken]
        rw [(h.replace known taken).mem_forPlatform_iff, h.mem_forPlatform_iff, Nodes.put,
          Maps.getElem?_insert, if_neg other.symm]
        rfl

end Memory.Nodes

/-! ## On a cluster -/

namespace Replicated

variable {r : Replicated} {keyspace : Keyspace} {nodes : NodeMap} {written node : Node}

theorem mem_nodesForPlatform_updateNode (ready : r.Ready keyspace)
    (consistent : Consistent r.contents) (stored : NodesStored nodes r.contents)
    (other : node.hostname ≠ written.hostname) (platform : String) :
    node ∈ Directory.nodesForPlatform platform (carryOut (planUpdateNode written) r).2 ↔
      node ∈ Directory.nodesForPlatform platform r := by
  have named (batch : Batch) (planned : Plans (planUpdateNode written) r batch) :
      Contents.Within tableNames batch := by
    obtain ⟨previous, -, -, rfl⟩ := plans_updateNode ready stored planned
    exact (within_replaceNode (readBack previous) written).mono nodeTables_subset
  obtain ⟨⟨keyspace', ready'⟩, same, hcontents⟩ := follows_carryOut ready named
  cases reads : r.cluster.failReads with
  | true =>
      rw [nodesForPlatform_eq_nil_of_failReads ready reads,
        nodesForPlatform_eq_nil_of_failReads ready' (same.failReads.trans reads)]
  | false =>
      have reads' := same.failReads.trans reads
      obtain ⟨listed, lists⟩ := consistent.listed
      rw [mem_nodesForPlatform_iff ready reads stored lists]
      rcases hcontents with kept | ⟨batch, planned, changed⟩
      · rw [← kept] at stored lists
        exact mem_nodesForPlatform_iff ready' reads' stored lists platform node
      · obtain ⟨previous, known, free, rfl⟩ := plans_updateNode ready stored planned
        have stored' := stored.replace known free
        have lists' := lists_replaceNode lists (readBack previous) written
        rw [← changed] at stored' lists'
        rw [mem_nodesForPlatform_iff ready' reads' stored' lists', Maps.getElem?_insert,
          if_neg other.symm]
        simp [other]

end Replicated

/-! ## Either kind -/

namespace Backend

variable {b : Backend} {nodes : NodeMap} {written node : Node}

theorem nodesForPlatform_noteLookup (b : Backend) (platform : String) :
    Directory.nodesForPlatform platform (Directory.noteLookup b) =
      Directory.nodesForPlatform platform b := by
  cases b with
  | memory m => rfl
  | replicated r =>
      have shown : r.noteRead.node? = r.node? := funext (Replicated.node?_noteRead r)
      have names : r.noteRead.columnNames Replicated.Layout.platforms platform =
          r.columnNames Replicated.Layout.platforms platform := by
        simp [Replicated.columnNames, Replicated.columns, Replicated.fetch, Cluster.row,
          Cluster.readable, Cluster.keyspace, Replicated.noteRead]
      change (r.noteRead.columnNames _ platform).filterMap r.noteRead.node? =
        (r.columnNames _ platform).filterMap r.node?
      rw [shown, names]

/-- No node is listed twice. -/
theorem Holds.nodup_nodesForPlatform (holds : b.Holds nodes) (platform : String) :
    (Directory.nodesForPlatform platform b).Nodup := by
  cases b with
  | memory m => exact (holds.1.nodes.nodup_hostnames_forPlatform platform).of_map _
  | replicated r =>
      obtain ⟨⟨keyspace, ready⟩, -, -⟩ := holds
      cases reads : r.cluster.failReads with
      | true =>
          change (Directory.nodesForPlatform platform r).Nodup
          rw [Replicated.nodesForPlatform_eq_nil_of_failReads ready reads]
          exact List.nodup_nil
      | false =>
          refine List.Nodup.filterMap (fun hostname hostname' node shown shown' => ?_)
            (ready.nodup_columnNames (by decide) reads platform)
          exact (Replicated.hostname_of_node? shown).symm.trans
            (Replicated.hostname_of_node? shown')

/-- An update of one node leaves the others on the platform. -/
theorem Holds.mem_nodesForPlatform_updateNode (holds : b.Holds nodes)
    (other : node.hostname ≠ written.hostname) (platform : String) :
    node ∈ Directory.nodesForPlatform platform (Directory.updateNode written b).2 ↔
      node ∈ Directory.nodesForPlatform platform b := by
  cases b with
  | memory m => exact holds.1.nodes.mem_forPlatform_update other platform
  | replicated r =>
      obtain ⟨⟨keyspace, ready⟩, consistent, stored⟩ := holds
      exact Replicated.mem_nodesForPlatform_updateNode ready consistent stored other platform

/-- Two nodes of one hostname that are listed are the same. -/
theorem Holds.eq_of_mem_nodesForPlatform (holds : b.Holds nodes) {platform : String}
    {node node' : Node} (listed : node ∈ Directory.nodesForPlatform platform b)
    (listed' : node' ∈ Directory.nodesForPlatform platform b)
    (same : node.hostname = node'.hostname) : node = node' := by
  have shown := holds.getNode?_of_mem listed
  rw [same, holds.getNode?_of_mem listed'] at shown
  exact (Option.some.inj shown).symm

theorem Holds.nodup_hostnames_nodesForPlatform (holds : b.Holds nodes) (platform : String) :
    ((Directory.nodesForPlatform platform b).map (·.hostname)).Nodup :=
  (holds.nodup_nodesForPlatform platform).map_on fun _ listed _ listed' same =>
    holds.eq_of_mem_nodesForPlatform listed listed' same

end Backend

end Switchboard
