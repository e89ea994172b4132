import Switchboard.Proofs.Directory.Replicated.Consistency

/-! # Entries of the platform table

Under a plain name the platform table lists exactly the nodes that serve the platform.
Under any other name an entry is never taken away again, since no row of a node reads
back with such a name; whose entries these are is kept as a predicate of hostnames.
-/

namespace Switchboard.Replicated

open Switchboard.Columns Switchboard.Maps Switchboard.Records
open Layout (readBack)

/-- The entries under plain names are those of the records, and an entry under another name
belongs to a faulty hostname. -/
structure Tracks (faulty : String → Prop) (nodes : NodeMap) (listed : String → String → Prop) :
    Prop where
  plain : ∀ platform hostname, PlainName platform →
    (listed platform hostname ↔ Serves nodes platform hostname)
  blame : ∀ platform hostname, listed platform hostname →
    PlainName platform ∨ faulty hostname

variable {faulty : String → Prop} {nodes : NodeMap} {listed : String → String → Prop}

/-- The entries after a node is written: its own platforms, and what it is listed under by
mistake. -/
def listedAfter (listed : String → String → Prop) (node : Node) (platform hostname : String) :
    Prop :=
  if hostname = node.hostname then
    platform ∈ node.platforms ∨ (¬ PlainName platform ∧ listed platform hostname)
  else listed platform hostname

theorem Tracks.written (h : Tracks faulty nodes listed) {node : Node}
    (excused : faulty node.hostname ∨ node.HasPlainNames) :
    Tracks faulty (nodes.insert node.hostname node) (listedAfter listed node) where
  plain := by
    intro platform hostname plain
    rw [listedAfter, Serves, at_insert]
    by_cases hk : node.hostname = hostname
    · simp [hk, plain]
    · rw [if_neg (Ne.symm hk), if_neg hk]
      exact h.plain platform hostname plain
  blame := by
    intro platform hostname hlisted
    rw [listedAfter] at hlisted
    by_cases hk : hostname = node.hostname
    · rw [if_pos hk] at hlisted
      rcases hlisted with hserves | ⟨_, hlisted⟩
      · rcases excused with hfaulty | hplain
        · exact Or.inr (hk ▸ hfaulty)
        · exact Or.inl (hplain platform hserves)
      · exact h.blame platform hostname hlisted
    · rw [if_neg hk] at hlisted
      exact h.blame platform hostname hlisted

/-- A new node is listed under its platforms, next to what was left of its hostname. -/
theorem Tracks.listedAfter_create (h : Tracks faulty nodes listed) {node : Node}
    (fresh : nodes[node.hostname]? = none) (platform hostname : String) :
    ((platform ∈ node.platforms ∧ hostname = node.hostname) ∨ listed platform hostname) ↔
      listedAfter listed node platform hostname := by
  rw [listedAfter]
  by_cases hk : hostname = node.hostname
  · subst hk
    have absent (plain : PlainName platform) : ¬ listed platform node.hostname := by
      rw [h.plain platform _ plain]
      exact not_at_of_none fresh _
    simp only [and_true, if_true]
    tauto
  · simp [hk]

/-- A replaced node loses the entries that its row read back with, which are its plain ones. -/
theorem Tracks.listedAfter_replace (h : Tracks faulty nodes listed) {previous node : Node}
    (known : nodes[node.hostname]? = some previous) (platform hostname : String) :
    ((platform ∈ node.platforms ∧ hostname = node.hostname) ∨
      (¬ (platform ∈ (readBack previous).platforms ∧ hostname = node.hostname) ∧
        listed platform hostname)) ↔
      listedAfter listed node platform hostname := by
  rw [listedAfter]
  by_cases hk : hostname = node.hostname
  · subst hk
    have dropped (hlisted : listed platform node.hostname) :
        platform ∈ (readBack previous).platforms ↔ PlainName platform := by
      constructor
      · exact Layout.plainName_of_mem_readBack
      · intro plain
        rw [h.plain platform _ plain, Serves, at_of_some known] at hlisted
        exact Layout.mem_readBack_of_plain hlisted plain
    simp only [and_true, if_true]
    tauto
  · simp [hk]

theorem Tracks.removed (h : Tracks faulty nodes listed) {node : Node}
    (known : nodes[node.hostname]? = some node) :
    Tracks faulty (nodes.erase node.hostname) fun platform hostname =>
      ¬ (platform ∈ (readBack node).platforms ∧ hostname = node.hostname) ∧
        listed platform hostname where
  plain := by
    intro platform hostname plain
    rw [Serves, at_erase, h.plain platform hostname plain]
    by_cases hk : hostname = node.hostname
    · subst hk
      have hserves := at_of_some known fun n => platform ∈ n.platforms
      have hback : platform ∈ node.platforms → platform ∈ (readBack node).platforms :=
        fun hin => Layout.mem_readBack_of_plain hin plain
      rw [Serves, hserves]
      simp only [and_true, ne_eq, not_true_eq_false, false_and, iff_false, not_and]
      tauto
    · simp [hk, Ne.symm hk, Serves]
  blame := by
    intro platform hostname hlisted
    exact h.blame platform hostname hlisted.2

/-! ## Nodes with their entries -/

structure NodesTracked (faulty : String → Prop) (nodes : NodeMap)
    (listed : String → String → Prop) (contents : Contents) : Prop where
  stored : NodesStored nodes contents
  lists : contents.Lists Layout.platforms listed
  tracks : Tracks faulty nodes listed

def WritesNode (node : Node) (op : Operation) : Prop :=
  op = .storeNode node ∨ op = .updateNode node

/-- Only nodes of faulty hostnames are written with names that are not plain. -/
def Blamed (faulty : String → Prop) (op : Operation) : Prop :=
  ∀ node, WritesNode node op → faulty node.hostname ∨ node.HasPlainNames

variable {contents : Contents}

theorem nodesTracked_empty (empty : ∀ table key, contents table key = ∅) :
    NodesTracked faulty ∅ (fun _ _ => False) contents where
  stored := nodesStored_empty fun table _ => empty table
  lists := by
    intro key name value
    rw [empty]
    simp
  tracks := by
    constructor
    · intro platform hostname _
      simp [Serves, At]
    · intro platform hostname h
      exact h.elim

theorem NodesTracked.of_contents_eq {contents' : Contents}
    (h : NodesTracked faulty nodes listed contents)
    (same : ∀ table ∈ nodeTables, contents' table = contents table) :
    NodesTracked faulty nodes listed contents' where
  stored := h.stored.of_contents_eq same
  lists := h.lists.of_contents_eq (same Layout.platforms (by decide))
  tracks := h.tracks

theorem NodesTracked.create (h : NodesTracked faulty nodes listed contents) {node : Node}
    (fresh : nodes[node.hostname]? = none)
    (free : ¬ IpTaken nodes node.ipAddress node.hostname)
    (excused : faulty node.hostname ∨ node.HasPlainNames) :
    NodesTracked faulty (nodes.insert node.hostname node) (listedAfter listed node)
      (contents.applyAll (Layout.insertNode node)) where
  stored := h.stored.create fresh free
  lists := (lists_insertNode h.lists node).congr (h.tracks.listedAfter_create fresh)
  tracks := h.tracks.written excused

theorem NodesTracked.replace (h : NodesTracked faulty nodes listed contents)
    {previous node : Node} (known : nodes[node.hostname]? = some previous)
    (free : ¬ IpTaken nodes node.ipAddress node.hostname)
    (excused : faulty node.hostname ∨ node.HasPlainNames) :
    NodesTracked faulty (nodes.insert node.hostname node) (listedAfter listed node)
      (contents.applyAll (replaceNode (readBack previous) node)) where
  stored := h.stored.replace known free
  lists := (lists_replaceNode h.lists (readBack previous) node).congr
    (h.tracks.listedAfter_replace known)
  tracks := h.tracks.written excused

theorem NodesTracked.remove (h : NodesTracked faulty nodes listed contents) {node : Node}
    (known : nodes[node.hostname]? = some node) :
    NodesTracked faulty (nodes.erase node.hostname)
      (fun platform hostname =>
        ¬ (platform ∈ (readBack node).platforms ∧ hostname = node.hostname) ∧
          listed platform hostname)
      (contents.applyAll (dropNode (readBack node))) where
  stored := h.stored.remove known
  lists := lists_dropNode h.lists (readBack node)
  tracks := h.tracks.removed known

/-- What holds throughout a history in which only faulty hostnames have other than plain names. -/
def Tracked (faulty : String → Prop) (contents : Contents) : Prop :=
  Consistent contents ∧ ∃ nodes listed, NodesTracked faulty nodes listed contents

theorem kept_tracked : Kept (Tracked faulty) (Blamed faulty) := by
  intro r keyspace op batch ready h blamed planned
  obtain ⟨consistent, nodes, listed, tracked⟩ := h
  have within := consistent.within ready planned
  refine ⟨within.mono (tablesOf_subset op), consistent.applyAll ready planned, ?_⟩
  cases op with
  | storeNode node =>
      obtain ⟨fresh, free, rfl⟩ := plans_storeNode ready tracked.stored planned
      exact ⟨_, _, tracked.create fresh free (blamed node (Or.inl rfl))⟩
  | updateNode node =>
      obtain ⟨previous, known, free, rfl⟩ := plans_updateNode ready tracked.stored planned
      exact ⟨_, _, tracked.replace known free (blamed node (Or.inr rfl))⟩
  | removeNode hostname =>
      obtain ⟨node, known, rfl⟩ := plans_removeNode ready tracked.stored planned
      rw [← tracked.stored.keyed hostname node known] at known
      exact ⟨_, _, tracked.remove known⟩
  | storeCall | removeCall =>
      have disjoint : ∀ table ∈ nodeTables, table ∉ callTables := by decide
      exact ⟨nodes, listed, tracked.of_contents_eq (within.keeps disjoint)⟩
  | storeClient | removeClient =>
      have disjoint : ∀ table ∈ nodeTables, table ∉ clientTables := by decide
      exact ⟨nodes, listed, tracked.of_contents_eq (within.keeps disjoint)⟩
  | storeApplication | removeApplication | storeAddress | storeAddresses | removeAddress =>
      have disjoint : ∀ table ∈ nodeTables, table ∉ applicationTables := by decide
      exact ⟨nodes, listed, tracked.of_contents_eq (within.keeps disjoint)⟩
  | _ => exact planned.elim

end Switchboard.Replicated
