import Switchboard.Proofs.Directory.Memory.History

/-! # Records rewritten in place and nodes taken out

A record that is written back with its address and its platforms changes no index. Taking
nodes out of a directory leaves every other record and entry as it is, in the same order.
-/

namespace Switchboard.Memory

open Switchboard.Maps Switchboard.Records

/-! ## Writing back -/

/-- A record of the same address and platforms takes the place of the old one and leaves both
indices as they are. -/
theorem Nodes.Exact.update_in_place {nodes : Nodes} (exact : nodes.Exact) {old node : Node}
    (known : nodes.byHostname[node.hostname]? = some old) (ip : node.ipAddress = old.ipAddress)
    (platforms : node.platforms = old.platforms) :
    Nodes.update node nodes =
      (.ok node, { nodes with byHostname := nodes.byHostname.insert node.hostname node }) := by
  have hheld : HoldsIp nodes.byHostname node.ipAddress node.hostname := ⟨old, known, ip.symm⟩
  have hfree : ¬ IpTaken nodes.byHostname node.ipAddress node.hostname := by
    rintro ⟨owner, hother, hholds⟩
    exact hother (exact.ipsUnique _ _ _ hholds hheld)
  have hserved : ∀ platform ∈ node.platforms.toList,
      Serves nodes.byHostname platform node.hostname := by
    intro platform hin
    rw [Std.ExtTreeSet.mem_toList, platforms] at hin
    exact ⟨old, known, hin⟩
  have hkept : old.platforms.toList.filter (fun p => !node.serves p) = [] := by
    rw [List.filter_eq_nil_iff]
    intro platform hin
    simpa [Node.serves, platforms] using hin
  have hattached := exact.platforms.attachAll_of_filed hserved
  rw [exact.update_eq, known]
  dsimp only
  rw [if_neg hfree]
  simp only [Nodes.release, Nodes.put, ip, ne_eq, not_true_eq_false, if_false, hkept,
    Listing.detachAll, List.foldl_nil]
  rw [← ip, insert_of_some ((exact.ips _ _).2 hheld), hattached]

def modifyNode (m : Memory) (hostname : String) (change : Node → Node) : Memory :=
  { m with nodes := { m.nodes with byHostname := m.nodes.byHostname.modify hostname change } }

variable {m : Memory}

theorem modifyNode_of_fixed {hostname : String} {change : Node → Node}
    (fixed : ∀ node, m.nodes.byHostname[hostname]? = some node → change node = node) :
    m.modifyNode hostname change = m := by
  have hrecords : m.nodes.byHostname.modify hostname change = m.nodes.byHostname := by
    cases known : m.nodes.byHostname[hostname]? with
    | none => exact modify_of_none known change
    | some node => rw [modify_of_some known, fixed node known, insert_of_some known]
  rw [modifyNode, hrecords]

/-- A change of a record that keeps what the indices are made of. -/
structure KeepsIndices (change : Node → Node) : Prop where
  hostname : ∀ node, (change node).hostname = node.hostname
  ipAddress : ∀ node, (change node).ipAddress = node.ipAddress
  platforms : ∀ node, (change node).platforms = node.platforms

/-- Writing back what a change makes of the registered record changes that record only. When
there is none, the copy at hand is refused. -/
theorem Indexed.updateNode_eq_modifyNode (indexed : m.Indexed) {change : Node → Node}
    (keeps : KeepsIndices change) (node : Node) :
    (Directory.updateNode (change ((Directory.getNode? node.hostname m).getD node)) m).2 =
      m.modifyNode node.hostname change := by
  have hlookup : Directory.getNode? node.hostname m = m.nodes.byHostname[node.hostname]? := rfl
  cases known : m.nodes.byHostname[node.hostname]? with
  | none =>
      have hrefused : Nodes.update (change node) m.nodes =
          (.error (.notFound .node (change node).hostname), m.nodes) := by
        rw [indexed.nodes.update_eq, keeps.hostname, known]
      rw [hlookup, known, Option.getD_none, modifyNode, modify_of_none known]
      exact congrArg (fun nodes => { m with nodes }) (congrArg Prod.snd hrefused)
  | some old =>
      have hkey : (change old).hostname = node.hostname :=
        (keeps.hostname old).trans (indexed.nodes.keyed _ _ known)
      have hwritten := indexed.nodes.update_in_place (hkey.symm ▸ known) (keeps.ipAddress old)
        (keeps.platforms old)
      rw [hlookup, known, Option.getD_some, modifyNode, modify_of_some known, ← hkey]
      exact congrArg (fun nodes => { m with nodes }) (congrArg Prod.snd hwritten)

theorem Indexed.modifyNode (indexed : m.Indexed) {change : Node → Node}
    (keeps : KeepsIndices change) (hostname : String) :
    (m.modifyNode hostname change).Indexed := by
  rw [← indexed.updateNode_eq_modifyNode keeps ⟨hostname, "", ∅, 1, 1, 0, false⟩]
  exact indexed.run (.updateNode _)

/-! ## Taking nodes out -/

def removeNodes (m : Memory) (hostnames : List String) : Memory :=
  hostnames.foldl (fun m hostname => (Directory.removeNode hostname m).2) m

theorem Indexed.removeNodes (indexed : m.Indexed) (hostnames : List String) :
    (m.removeNodes hostnames).Indexed := by
  induction hostnames generalizing m with
  | nil => exact indexed
  | cons hostname rest ih => exact ih (indexed.run (.removeNode hostname))

/-- The later directory is the earlier one without the nodes of some hostnames and with changes
of the other records that bear on no index. -/
structure Edited (gone : List String) (change : String → Node → Node) (before after : Memory) :
    Prop where
  records : ∀ hostname : String, after.nodes.byHostname[hostname]? =
    if hostname ∈ gone then none else before.nodes.byHostname[hostname]?.map (change hostname)
  ips : ∀ ip hostname : String, after.nodes.byIp[ip]? = some hostname ↔
    before.nodes.byIp[ip]? = some hostname ∧ hostname ∉ gone
  platforms : ∀ platform, after.nodes.byPlatform.values platform =
    (before.nodes.byPlatform.values platform).filter (· ∉ gone)
  calls : after.calls = before.calls
  applications : after.applications = before.applications

theorem edited_refl (m : Memory) : m.Edited [] (fun _ => id) m where
  records := fun _ => by simp
  ips := fun _ _ => by simp
  platforms := fun _ => by simp
  calls := rfl
  applications := rfl

theorem Edited.trans {gone gone' : List String} {change change' : String → Node → Node}
    {m' m'' : Memory} (first : m.Edited gone change m') (second : m'.Edited gone' change' m'') :
    m.Edited (gone ++ gone') (fun hostname => change' hostname ∘ change hostname) m'' where
  records := fun hostname => by
    rw [second.records, first.records]
    by_cases hlater : hostname ∈ gone'
    · simp [hlater]
    · by_cases hsooner : hostname ∈ gone
      · simp [hsooner]
      · simp [hlater, hsooner]
  ips := fun ip hostname => by
    rw [second.ips, first.ips, List.mem_append, not_or, and_assoc]
  platforms := fun platform => by
    rw [second.platforms, first.platforms, List.filter_filter]
    refine List.filter_congr fun hostname _ => ?_
    simp [Bool.and_comm]
  calls := second.calls.trans first.calls
  applications := second.applications.trans first.applications

theorem edited_modifyNode (m : Memory) (hostname : String) (change : Node → Node) :
    m.Edited [] (fun h => if hostname = h then change else id) (m.modifyNode hostname change) where
  records := fun h => by
    rw [modifyNode, getElem?_modify]
    by_cases hk : hostname = h
    · simp [hk]
    · simp [hk]
  ips := fun _ _ => by simp [modifyNode]
  platforms := fun _ => by simp [modifyNode]
  calls := rfl
  applications := rfl

/-- The records and the lists of a directory say what its indices hold. -/
theorem Indexed.edited_of_records (indexed : m.Indexed) {m' : Memory} (indexed' : m'.Indexed)
    {gone : List String}
    (records : ∀ hostname : String, m'.nodes.byHostname[hostname]? =
      if hostname ∈ gone then none else m.nodes.byHostname[hostname]?)
    (platforms : ∀ platform, m'.nodes.byPlatform.values platform =
      (m.nodes.byPlatform.values platform).filter (· ∉ gone))
    (calls : m'.calls = m.calls) (applications : m'.applications = m.applications) :
    m.Edited gone (fun _ => id) m' where
  records := fun hostname => by rw [records, Option.map_id, id]
  ips := by
    intro ip hostname
    rw [indexed'.nodes.ips, indexed.nodes.ips, HoldsIp, HoldsIp, At, At, records]
    by_cases hgone : hostname ∈ gone
    · simp [hgone]
    · simp [hgone]
  platforms := platforms
  calls := calls
  applications := applications

/-- Removing a node takes its own entries away and no others. -/
theorem Indexed.edited_removeNode (indexed : m.Indexed) (hostname : String) :
    m.Edited [hostname] (fun _ => id) (Directory.removeNode hostname m).2 := by
  have indexed' : (Directory.removeNode hostname m).2.Indexed :=
    indexed.run (.removeNode hostname)
  have hremoved : (Directory.removeNode hostname m).2 =
      { m with nodes := (Nodes.remove hostname m.nodes).2 } := rfl
  rw [indexed.nodes.remove_eq] at hremoved
  have hlisted := indexed.nodes.platforms.mem_iff
  cases known : m.nodes.byHostname[hostname]? with
  | none =>
      rw [known] at hremoved
      rw [hremoved] at indexed' ⊢
      refine indexed.edited_of_records indexed' ?_ ?_ rfl rfl
      · intro other
        by_cases hother : other = hostname
        · simp [hother, known]
        · simp [hother]
      · intro platform
        refine (List.filter_eq_self.2 fun other hin => ?_).symm
        obtain ⟨node, hnode, -⟩ := (hlisted platform other).1 hin
        have hne : other ≠ hostname := fun he => by simp [he, known] at hnode
        simpa using hne
  | some node =>
      have hkey := indexed.nodes.keyed hostname node known
      rw [known] at hremoved
      rw [hremoved] at indexed' ⊢
      refine indexed.edited_of_records indexed' ?_ ?_ rfl rfl
      · intro other
        simp [Nodes.drop, getElem?_erase, hkey, eq_comm]
      · intro platform
        have hvalues := m.nodes.byPlatform.values_detachAll node.platforms.toList hostname platform
        simp only [Nodes.drop, hkey, hvalues, List.mem_singleton]
        split
        · rfl
        · next hserves =>
            refine (List.filter_eq_self.2 fun other hin => ?_).symm
            have hserved := (hlisted platform other).1 hin
            have hne : other ≠ hostname := by
              rintro rfl
              rw [serves_of_some known] at hserved
              exact hserves (Std.ExtTreeSet.mem_toList.2 hserved)
            simpa using hne

theorem Indexed.edited_removeNodes (indexed : m.Indexed) (hostnames : List String) :
    m.Edited hostnames (fun _ => id) (m.removeNodes hostnames) := by
  induction hostnames generalizing m with
  | nil => exact edited_refl m
  | cons hostname rest ih =>
      exact (indexed.edited_removeNode hostname).trans (ih (indexed.run (.removeNode hostname)))

end Switchboard.Memory
