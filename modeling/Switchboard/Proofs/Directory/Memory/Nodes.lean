import Switchboard.Directory.Memory.Nodes
import Switchboard.Proofs.Directory.Memory.Listing
import Switchboard.Proofs.Directory.Records

/-! # Node records and their indices in memory

Both indices are exact: an IP address leads to the node that holds it, and the platform
listing files the nodes under the platforms that they serve.
-/

namespace Switchboard.Memory.Nodes

open Switchboard.Maps Switchboard.Records

structure Exact (nodes : Nodes) : Prop where
  keyed : Keyed Node.hostname nodes.byHostname
  ips : ∀ ip hostname,
    nodes.byIp[ip]? = some hostname ↔ HoldsIp nodes.byHostname ip hostname
  platforms : nodes.byPlatform.Files (Serves nodes.byHostname)

variable {nodes : Nodes}

theorem exact_empty : Exact {} where
  keyed := Keyed.empty
  ips := by
    intro ip hostname
    simp [HoldsIp, At]
  platforms := Listing.files_empty.congr fun platform hostname => by simp [Serves, At]

theorem Exact.ipsUnique (h : nodes.Exact) : IpsUnique nodes.byHostname := by
  intro ip hostname hostname' held held'
  have owner := (h.ips ip hostname).2 held
  rw [(h.ips ip hostname').2 held'] at owner
  exact (Option.some.inj owner).symm

theorem Exact.ipTaken_iff (h : nodes.Exact) (ip hostname : String) :
    nodes.ipTaken ip hostname = true ↔ IpTaken nodes.byHostname ip hostname := by
  unfold ipTaken
  cases howner : nodes.byIp[ip]? with
  | none =>
      simp only [Bool.false_eq_true, false_iff]
      intro ⟨owner, _, held⟩
      rw [← h.ips, howner] at held
      cases held
  | some owner =>
      have held := (h.ips ip owner).1 howner
      simp only [bne_iff_ne]
      constructor
      · intro hne
        exact ⟨owner, hne, held⟩
      · intro ⟨other, hne, hother⟩
        rw [h.ipsUnique ip owner other held hother]
        exact hne

/-! ## Results of commands -/

open Classical in
theorem Exact.store_eq (h : nodes.Exact) (node : Node) :
    Nodes.store node nodes =
      match nodes.byHostname[node.hostname]? with
      | some _ => (.error (.alreadyExists .node node.hostname), nodes)
      | none =>
        if IpTaken nodes.byHostname node.ipAddress node.hostname then
          (.error (.alreadyExists .node node.ipAddress), nodes)
        else (.ok node, nodes.put node) := by
  have htaken := h.ipTaken_iff node.ipAddress node.hostname
  rw [Nodes.store, Std.ExtTreeMap.contains_eq_isSome_getElem?]
  cases nodes.byHostname[node.hostname]? with
  | some previous => rfl
  | none =>
      by_cases taken : IpTaken nodes.byHostname node.ipAddress node.hostname
      · simp [taken, htaken.2 taken]
      · simp [taken, mt htaken.1 taken]

/-- The records and indices without what a replaced node gives up. -/
def release (nodes : Nodes) (previous node : Node) : Nodes where
  byHostname := nodes.byHostname
  byIp :=
    if previous.ipAddress ≠ node.ipAddress then nodes.byIp.erase previous.ipAddress
    else nodes.byIp
  byPlatform := nodes.byPlatform.detachAll
    (previous.platforms.toList.filter fun p => !node.serves p) node.hostname

open Classical in
theorem Exact.update_eq (h : nodes.Exact) (node : Node) :
    Nodes.update node nodes =
      match nodes.byHostname[node.hostname]? with
      | none => (.error (.notFound .node node.hostname), nodes)
      | some previous =>
        if IpTaken nodes.byHostname node.ipAddress node.hostname then
          (.error (.alreadyExists .node node.ipAddress), nodes)
        else (.ok node, (nodes.release previous node).put node) := by
  have htaken := h.ipTaken_iff node.ipAddress node.hostname
  rw [Nodes.update]
  cases nodes.byHostname[node.hostname]? with
  | none => rfl
  | some previous =>
      by_cases taken : IpTaken nodes.byHostname node.ipAddress node.hostname
      · simp [taken, htaken.2 taken]
      · simp [taken, mt htaken.1 taken, release]

theorem store_ok {node answer : Node} (accepted : (store node nodes).1 = .ok answer) :
    answer = node ∧
      (store node nodes).2.byHostname = nodes.byHostname.insert node.hostname node := by
  unfold store at accepted ⊢
  split at accepted
  · cases accepted
  · next fresh =>
      split at accepted
      · cases accepted
      · next free =>
          cases accepted
          rw [if_neg fresh, if_neg free]
          exact ⟨rfl, rfl⟩

theorem update_ok {node answer : Node} (accepted : (update node nodes).1 = .ok answer) :
    answer = node ∧
      (update node nodes).2.byHostname = nodes.byHostname.insert node.hostname node := by
  unfold update at accepted ⊢
  split at accepted
  · cases accepted
  · split at accepted
    · cases accepted
    · next free =>
        cases accepted
        rw [if_neg free]
        exact ⟨rfl, rfl⟩

/-- A node is stored when its hostname is new and its IP address is free. -/
theorem Exact.of_store_ok (h : nodes.Exact) {node answer : Node}
    (accepted : (Nodes.store node nodes).1 = .ok answer) :
    nodes.byHostname[node.hostname]? = none ∧
      ¬ IpTaken nodes.byHostname node.ipAddress node.hostname ∧
      (Nodes.store node nodes).2 = nodes.put node := by
  rw [h.store_eq] at accepted ⊢
  cases known : nodes.byHostname[node.hostname]? with
  | some previous =>
      rw [known] at accepted
      cases accepted
  | none =>
      by_cases taken : IpTaken nodes.byHostname node.ipAddress node.hostname
      · simp only [known, if_pos taken] at accepted
        cases accepted
      · exact ⟨rfl, taken, by rw [if_neg taken]⟩

/-- A node is updated when it is registered and its new IP address is free. -/
theorem Exact.of_update_ok (h : nodes.Exact) {node answer : Node}
    (accepted : (Nodes.update node nodes).1 = .ok answer) :
    ∃ previous, nodes.byHostname[node.hostname]? = some previous ∧
      ¬ IpTaken nodes.byHostname node.ipAddress node.hostname ∧
      (Nodes.update node nodes).2 = (nodes.release previous node).put node := by
  rw [h.update_eq] at accepted ⊢
  cases known : nodes.byHostname[node.hostname]? with
  | none =>
      rw [known] at accepted
      cases accepted
  | some previous =>
      by_cases taken : IpTaken nodes.byHostname node.ipAddress node.hostname
      · simp only [known, if_pos taken] at accepted
        cases accepted
      · exact ⟨previous, rfl, taken, by simp only [if_neg taken]⟩

def drop (nodes : Nodes) (node : Node) : Nodes where
  byHostname := nodes.byHostname.erase node.hostname
  byIp := nodes.byIp.erase node.ipAddress
  byPlatform := nodes.byPlatform.detachAll node.platforms.toList node.hostname

theorem Exact.remove_eq (h : nodes.Exact) (hostname : String) :
    Nodes.remove hostname nodes =
      match nodes.byHostname[hostname]? with
      | none => (.error (.notFound .node hostname), nodes)
      | some node => (.ok node, nodes.drop node) := by
  rw [Nodes.remove]
  cases known : nodes.byHostname[hostname]? with
  | none => rfl
  | some node =>
      have hkey := h.keyed hostname node known
      subst hkey
      have hown : nodes.byIp[node.ipAddress]? = some node.hostname :=
        (h.ips _ _).2 ((at_of_some known _).2 rfl)
      simp [hown, drop]

/-! ## Indices after commands -/

/-- A node is written over records whose indices have nothing of its hostname but its IP address
and its platforms. -/
theorem Exact.put (h : nodes.Exact) {node : Node}
    (free : ¬ IpTaken nodes.byHostname node.ipAddress node.hostname) {released : Nodes}
    (records : released.byHostname = nodes.byHostname)
    (ips : ∀ ip hostname, released.byIp[ip]? = some hostname ↔
      ¬ (HoldsIp nodes.byHostname ip node.hostname ∧ ip ≠ node.ipAddress) ∧
        HoldsIp nodes.byHostname ip hostname)
    (platforms : released.byPlatform.Files fun platform hostname =>
      ¬ (hostname = node.hostname ∧ platform ∉ node.platforms) ∧
        Serves nodes.byHostname platform hostname) :
    (released.put node).Exact where
  keyed := by
    have hkeyed := h.keyed.insert node
    rwa [← records] at hkeyed
  ips := by
    intro ip hostname
    have hholds := holdsIp_insert_iff h.ipsUnique free ip hostname
    rw [Nodes.put, records, Maps.getElem?_insert, hholds]
    by_cases hip : node.ipAddress = ip
    · simp [hip, eq_comm]
    · rw [if_neg hip, if_neg hip, ips]
      simp [Ne.symm hip]
  platforms := by
    have attached := platforms.attachAll node.platforms.toList node.hostname
    refine attached.congr fun platform hostname => ?_
    rw [Nodes.put, records, serves_insert_iff, Std.ExtTreeSet.mem_toList]
    by_cases hk : node.hostname = hostname
    · subst hk
      simp only [and_true, true_and, if_true, not_not]
      tauto
    · simp [hk, Ne.symm hk]

theorem Exact.create (h : nodes.Exact) {node : Node}
    (fresh : nodes.byHostname[node.hostname]? = none)
    (free : ¬ IpTaken nodes.byHostname node.ipAddress node.hostname) :
    (nodes.put node).Exact := by
  have absent (property : Node → Prop) : ¬ At nodes.byHostname node.hostname property :=
    not_at_of_none fresh property
  refine h.put free rfl ?_ ?_
  · intro ip hostname
    rw [h.ips]
    simp [HoldsIp, absent]
  · refine h.platforms.congr fun platform hostname => ?_
    by_cases hk : hostname = node.hostname
    · subst hk
      simp [Serves, absent]
    · simp [hk]

theorem Exact.replace (h : nodes.Exact) {previous node : Node}
    (known : nodes.byHostname[node.hostname]? = some previous)
    (free : ¬ IpTaken nodes.byHostname node.ipAddress node.hostname) :
    ((nodes.release previous node).put node).Exact := by
  refine h.put free rfl ?_ ?_
  · intro ip hostname
    have hown : HoldsIp nodes.byHostname ip node.hostname ↔ previous.ipAddress = ip :=
      at_of_some known _
    rw [hown]
    unfold release
    by_cases hmoves : previous.ipAddress = node.ipAddress
    · rw [if_neg (by simpa using hmoves), h.ips, hmoves]
      grind
    · rw [if_pos hmoves, Maps.getElem?_erase]
      by_cases hip : previous.ipAddress = ip
      · have hne : ip ≠ node.ipAddress := fun he => hmoves (hip.trans he)
        simp [hip, hne]
      · rw [if_neg hip, h.ips]
        simp [hip]
  · have detached := h.platforms.detachAll
      (previous.platforms.toList.filter fun p => !node.serves p) node.hostname
    refine detached.congr fun platform hostname => ?_
    by_cases hk : hostname = node.hostname
    · subst hk
      rw [serves_of_some known]
      simp only [List.mem_filter, Std.ExtTreeSet.mem_toList, Node.serves, Bool.not_eq_true',
        ← Bool.not_eq_true, Std.ExtTreeSet.contains_iff_mem]
      tauto
    · simp [hk]

theorem Exact.drop (h : nodes.Exact) {node : Node}
    (known : nodes.byHostname[node.hostname]? = some node) : (nodes.drop node).Exact where
  keyed := h.keyed.erase node.hostname
  ips := by
    intro ip hostname
    have hown : HoldsIp nodes.byHostname ip node.hostname ↔ node.ipAddress = ip :=
      at_of_some known _
    rw [Nodes.drop, holdsIp_erase_iff h.ipsUnique, hown, Maps.getElem?_erase]
    by_cases hip : node.ipAddress = ip
    · simp [hip]
    · rw [if_neg hip, h.ips]
      simp [hip]
  platforms := by
    have detached := h.platforms.detachAll node.platforms.toList node.hostname
    refine detached.congr fun platform hostname => ?_
    rw [Nodes.drop, serves_erase_iff, Std.ExtTreeSet.mem_toList]
    by_cases hk : hostname = node.hostname
    · subst hk
      simp [serves_of_some known]
    · simp [hk, Ne.symm hk]

end Switchboard.Memory.Nodes
