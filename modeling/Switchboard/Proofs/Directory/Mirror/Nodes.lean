import Switchboard.Proofs.Directory.Memory.Nodes
import Switchboard.Proofs.Directory.Mirror.Basic
import Switchboard.Proofs.Directory.Replicated.Nodes

/-! # Nodes on both directories

As long as every platform has a plain name, the platform table lists the nodes under the
platforms that they serve, as the listing in memory does.
-/

namespace Switchboard.Mirror

open Switchboard.Columns Switchboard.Maps Switchboard.Records Switchboard.Replicated
open Layout (readBack)

def AllPlain (nodes : NodeMap) : Prop :=
  ∀ (hostname : String) (node : Node), nodes[hostname]? = some node → node.HasPlainNames

theorem AllPlain.insert {nodes : NodeMap} (h : AllPlain nodes) {node : Node}
    (plain : node.HasPlainNames) : AllPlain (nodes.insert node.hostname node) := by
  intro hostname record known
  rw [Maps.getElem?_insert] at known
  split at known
  · cases known
    exact plain
  · exact h hostname record known

theorem AllPlain.erase {nodes : NodeMap} (h : AllPlain nodes) (gone : String) :
    AllPlain (nodes.erase gone) := by
  intro hostname record known
  rw [Maps.getElem?_erase] at known
  split at known
  · cases known
  · exact h hostname record known

structure NodesMirrored (nodes : Memory.Nodes) (contents : Contents) : Prop where
  exact : nodes.Exact
  stored : NodesStored nodes.byHostname contents
  platforms : contents.Lists Layout.platforms (Serves nodes.byHostname)
  plain : AllPlain nodes.byHostname

variable {nodes : Memory.Nodes} {contents contents' : Contents}

theorem nodesMirrored_empty (empty : ∀ table key, contents table key = ∅) :
    NodesMirrored {} contents where
  exact := Memory.Nodes.exact_empty
  stored := nodesStored_empty fun table _ => empty table
  platforms := by
    intro key name value
    rw [empty]
    simp [Serves, At]
  plain := by
    intro hostname node known
    simp at known

theorem NodesMirrored.of_contents_eq (h : NodesMirrored nodes contents)
    (same : ∀ table ∈ nodeTables, contents' table = contents table) :
    NodesMirrored nodes contents' where
  exact := h.exact
  stored := h.stored.of_contents_eq same
  platforms := h.platforms.of_contents_eq (same Layout.platforms (by decide))
  plain := h.plain

theorem NodesMirrored.create (h : NodesMirrored nodes contents) {node : Node}
    (plain : node.HasPlainNames) (fresh : nodes.byHostname[node.hostname]? = none)
    (free : ¬ IpTaken nodes.byHostname node.ipAddress node.hostname) :
    NodesMirrored (nodes.put node) (contents.applyAll (Layout.insertNode node)) where
  exact := h.exact.create fresh free
  stored := h.stored.create fresh free
  platforms := (lists_insertNode h.platforms node).congr fun platform hostname => by
    have absent : ¬ Serves nodes.byHostname platform node.hostname := not_at_of_none fresh _
    rw [Memory.Nodes.put, serves_insert_iff]
    by_cases hk : hostname = node.hostname
    · subst hk
      simp [absent]
    · simp [hk, Ne.symm hk]
  plain := h.plain.insert plain

theorem NodesMirrored.replace (h : NodesMirrored nodes contents) {previous node : Node}
    (plain : node.HasPlainNames) (known : nodes.byHostname[node.hostname]? = some previous)
    (free : ¬ IpTaken nodes.byHostname node.ipAddress node.hostname) :
    NodesMirrored ((nodes.release previous node).put node)
      (contents.applyAll (replaceNode (readBack previous) node)) where
  exact := h.exact.replace known free
  stored := h.stored.replace known free
  platforms := by
    rw [Layout.readBack_eq_self_iff.2 (h.plain _ _ known)]
    refine (lists_replaceNode h.platforms previous node).congr fun platform hostname => ?_
    rw [Memory.Nodes.put, Memory.Nodes.release, serves_insert_iff]
    by_cases hk : hostname = node.hostname
    · subst hk
      simp [serves_of_some known]
    · simp [hk, Ne.symm hk]
  plain := h.plain.insert plain

theorem NodesMirrored.drop (h : NodesMirrored nodes contents) {node : Node}
    (known : nodes.byHostname[node.hostname]? = some node) :
    NodesMirrored (nodes.drop node) (contents.applyAll (dropNode (readBack node))) where
  exact := h.exact.drop known
  stored := h.stored.remove known
  platforms := by
    rw [Layout.readBack_eq_self_iff.2 (h.plain _ _ known)]
    refine (lists_dropNode h.platforms node).congr fun platform hostname => ?_
    rw [Memory.Nodes.drop, serves_erase_iff]
    by_cases hk : hostname = node.hostname
    · subst hk
      simp [serves_of_some known]
    · simp [hk, Ne.symm hk]
  plain := h.plain.erase node.hostname

section Commands

variable {r : Replicated}

theorem matches_storeNode (live : r.Live) (h : NodesMirrored nodes r.contents) {node : Node}
    (plain : node.HasPlainNames) :
    Matches nodeTables NodesMirrored r (Memory.Nodes.store node nodes)
      (carryOut (planStoreNode node) r) := by
  obtain ⟨keyspace, ready⟩ := live.ready
  have plan := planStoreNode_eq ready live.reads h.stored node
  rw [h.exact.store_eq node]
  cases known : nodes.byHostname[node.hostname]? with
  | some previous =>
      rw [known] at plan
      exact matches_refused live h plan
  | none =>
      simp only [known] at plan
      by_cases taken : IpTaken nodes.byHostname node.ipAddress node.hostname
      · rw [if_pos taken] at plan
        simp only [if_pos taken]
        exact matches_refused live h plan
      · rw [if_neg taken] at plan
        simp only [if_neg taken]
        exact matches_written live plan (within_insertNode node) nodeTables_subset
          (h.create plain known taken)

theorem matches_updateNode (live : r.Live) (h : NodesMirrored nodes r.contents) {node : Node}
    (plain : node.HasPlainNames) :
    Matches nodeTables NodesMirrored r (Memory.Nodes.update node nodes)
      (carryOut (planUpdateNode node) r) := by
  obtain ⟨keyspace, ready⟩ := live.ready
  have plan := planUpdateNode_eq ready live.reads h.stored node
  rw [h.exact.update_eq node]
  cases known : nodes.byHostname[node.hostname]? with
  | none =>
      rw [known] at plan
      exact matches_refused live h plan
  | some previous =>
      simp only [known] at plan
      by_cases taken : IpTaken nodes.byHostname node.ipAddress node.hostname
      · rw [if_pos taken] at plan
        simp only [if_pos taken]
        exact matches_refused live h plan
      · rw [if_neg taken] at plan
        simp only [if_neg taken]
        exact matches_written live plan (within_replaceNode (readBack previous) node)
          nodeTables_subset (h.replace plain known taken)

theorem matches_removeNode (live : r.Live) (h : NodesMirrored nodes r.contents)
    (hostname : String) :
    Matches nodeTables NodesMirrored r (Memory.Nodes.remove hostname nodes)
      (carryOut (planRemoveNode hostname) r) := by
  obtain ⟨keyspace, ready⟩ := live.ready
  have plan := planRemoveNode_eq ready live.reads h.stored hostname
  rw [h.exact.remove_eq hostname]
  cases known : nodes.byHostname[hostname]? with
  | none =>
      rw [known] at plan
      exact matches_refused live h plan
  | some node =>
      have hback := Layout.readBack_eq_self_iff.2 (h.plain hostname node known)
      have own := known
      rw [← h.exact.keyed hostname node known] at own
      have dropped := h.drop own
      rw [hback] at dropped
      simp only [known, hback] at plan
      exact matches_written live plan (within_dropNode node) nodeTables_subset dropped

end Commands

/-! ## Look-ups -/

section Lookups

variable {r : Replicated}

theorem node?_mirrored (live : r.Live) (h : NodesMirrored nodes r.contents) (hostname : String) :
    r.node? hostname = nodes.byHostname[hostname]? := by
  obtain ⟨keyspace, ready⟩ := live.ready
  rw [node?_eq ready live.reads h.stored]
  cases known : nodes.byHostname[hostname]? with
  | none => rfl
  | some node => exact congrArg some (Layout.readBack_eq_self_iff.2 (h.plain hostname node known))

theorem fetchNode_mirrored (live : r.Live) (h : NodesMirrored nodes r.contents)
    (hostname : String) : r.fetchNode hostname = .ok nodes.byHostname[hostname]? := by
  obtain ⟨keyspace, ready⟩ := live.ready
  rw [fetchNode_eq ready live.reads h.stored, ← node?_eq ready live.reads h.stored,
    node?_mirrored live h]

theorem ipOwner_mirrored (live : r.Live) (h : NodesMirrored nodes r.contents) (ip : String) :
    column? (r.columns Layout.ips ip) "node" = nodes.byIp[ip]? := by
  obtain ⟨keyspace, ready⟩ := live.ready
  rw [ready.columns_eq (by decide) live.reads, column?_columns]
  apply Option.ext
  intro hostname
  rw [ipOwner_eq_some_iff h.stored, h.exact.ips]

theorem nodeForIp?_mirrored (live : r.Live) (h : NodesMirrored nodes r.contents) (ip : String) :
    Directory.nodeForIp? ip r = nodes.forIp? ip := by
  have hrun : Directory.nodeForIp? ip r =
      (column? (r.columns Layout.ips ip) "node").bind r.node? := rfl
  rw [hrun, ipOwner_mirrored live h, Memory.Nodes.forIp?]
  cases nodes.byIp[ip]? with
  | none => rfl
  | some hostname => exact node?_mirrored live h hostname

theorem nodesForPlatform_mirrored (live : r.Live) (h : NodesMirrored nodes r.contents)
    (platform : String) :
    (nodes.forPlatform platform).Perm (Directory.nodesForPlatform platform r) := by
  have hread : r.node? = fun hostname => nodes.byHostname[hostname]? := by
    funext hostname
    exact node?_mirrored live h hostname
  have hrun : Directory.nodesForPlatform platform r =
      (r.columnNames Layout.platforms platform).filterMap r.node? := rfl
  have names := values_perm_columnNames live (by decide) h.exact.platforms
    (h.platforms.exists_iff platform)
  rw [hrun, hread]
  exact names.filterMap _

theorem platforms_mirrored (live : r.Live) (h : NodesMirrored nodes r.contents) :
    nodes.byPlatform.keys = Directory.platforms r := by
  refine keys_eq_rowKeys live (by decide) fun platform => ?_
  rw [h.platforms.ne_empty_iff, ← Std.ExtTreeMap.mem_keys, h.exact.platforms.mem_keys]

end Lookups

end Switchboard.Mirror
