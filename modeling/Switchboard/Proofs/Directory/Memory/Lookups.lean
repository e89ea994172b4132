import Switchboard.Proofs.Directory.Memory.History

/-! # What look-ups in memory show

The look-ups through an index are described by the records alone: which node holds an IP
address, which nodes serve a platform, which calls a client or a node has. What a new record
adds to the indices goes with it when it is removed.
-/

namespace Switchboard.Memory

open Switchboard.Maps Switchboard.Records

/-! ## Nodes -/

namespace Nodes

variable {nodes : Nodes}

theorem Exact.forIp?_eq_some_iff (h : nodes.Exact) (ip : String) (node : Node) :
    nodes.forIp? ip = some node ↔
      nodes.byHostname[node.hostname]? = some node ∧ node.ipAddress = ip := by
  rw [forIp?]
  cases howner : nodes.byIp[ip]? with
  | none =>
      have nobody (hostname : String) : ¬ HoldsIp nodes.byHostname ip hostname := by
        rw [← h.ips, howner]
        simp
      constructor
      · intro hnone
        cases hnone
      · rintro ⟨known, hip⟩
        exact absurd ⟨node, known, hip⟩ (nobody node.hostname)
  | some owner =>
      obtain ⟨record, known, hip⟩ := (h.ips ip owner).1 howner
      constructor
      · intro hsome
        have hrecord : record = node := Option.some.inj (known.symm.trans hsome)
        have hkey := h.keyed owner record known
        subst hrecord
        rw [hkey]
        exact ⟨known, hip⟩
      · rintro ⟨known', hip'⟩
        have hsame := h.ipsUnique ip owner node.hostname ⟨record, known, hip⟩ ⟨node, known', hip'⟩
        exact hsame ▸ known'

theorem Exact.mem_forPlatform_iff (h : nodes.Exact) (platform : String) (node : Node) :
    node ∈ nodes.forPlatform platform ↔
      nodes.byHostname[node.hostname]? = some node ∧ platform ∈ node.platforms := by
  rw [forPlatform, List.mem_filterMap]
  constructor
  · rintro ⟨hostname, hin, known⟩
    have hserves := (h.platforms.mem_iff platform hostname).1 hin
    rw [serves_of_some known] at hserves
    rw [h.keyed hostname node known]
    exact ⟨known, hserves⟩
  · rintro ⟨known, hserves⟩
    have hin := (h.platforms.mem_iff platform node.hostname).2 ((serves_of_some known _).2 hserves)
    exact ⟨node.hostname, hin, known⟩

/-- The nodes of a platform come in the order of the index. -/
theorem Exact.hostnames_forPlatform (h : nodes.Exact) (platform : String) :
    (nodes.forPlatform platform).map (·.hostname) = nodes.byPlatform.values platform := by
  have listed : ∀ hostname ∈ nodes.byPlatform.values platform,
      (nodes.byHostname[hostname]?).map (·.hostname) = some hostname := by
    intro hostname hin
    obtain ⟨node, known, -⟩ := (h.platforms.mem_iff platform hostname).1 hin
    rw [known, Option.map_some, h.keyed hostname node known]
  rw [forPlatform, List.map_filterMap]
  calc (nodes.byPlatform.values platform).filterMap
        (fun hostname => (nodes.byHostname[hostname]?).map (·.hostname))
      = (nodes.byPlatform.values platform).filterMap some := List.filterMap_congr listed
    _ = nodes.byPlatform.values platform := List.filterMap_some

theorem Exact.nodup_hostnames_forPlatform (h : nodes.Exact) (platform : String) :
    ((nodes.forPlatform platform).map (·.hostname)).Nodup := by
  rw [h.hostnames_forPlatform]
  exact h.platforms.nodup platform

open Classical in
theorem Exact.store_refused_iff (h : nodes.Exact) {node : Node}
    (fresh : nodes.byHostname[node.hostname]? = none) :
    (∃ e, (Nodes.store node nodes).1 = .error e) ↔
      IpTaken nodes.byHostname node.ipAddress node.hostname := by
  simp only [h.store_eq, fresh]
  by_cases taken : IpTaken nodes.byHostname node.ipAddress node.hostname
  · simp [taken]
  · simp [taken]

open Classical in
theorem Exact.update_refused_iff (h : nodes.Exact) {previous node : Node}
    (known : nodes.byHostname[node.hostname]? = some previous) :
    (∃ e, (Nodes.update node nodes).1 = .error e) ↔
      IpTaken nodes.byHostname node.ipAddress node.hostname := by
  simp only [h.update_eq, known]
  by_cases taken : IpTaken nodes.byHostname node.ipAddress node.hostname
  · simp [taken]
  · simp [taken]

end Nodes

/-- The record is found by its hostname, by its IP address and on its platforms; the others are as
they were. -/
structure HoldsNode (node : Node) (before after : Memory) : Prop where
  found : Directory.getNode? node.hostname after = some node
  others : ∀ hostname, hostname ≠ node.hostname →
    Directory.getNode? hostname after = Directory.getNode? hostname before
  byIp : Directory.nodeForIp? node.ipAddress after = some node
  onPlatforms : ∀ platform,
    node ∈ Directory.nodesForPlatform platform after ↔ platform ∈ node.platforms

structure NodesFound (m : Memory) : Prop where
  keyed : Keyed Node.hostname m.nodes.byHostname
  byIp : ∀ ip hostname,
    m.nodes.byIp[ip]? = some hostname ↔ HoldsIp m.nodes.byHostname ip hostname
  ipsUnique : IpsUnique m.nodes.byHostname
  nodeForIp : ∀ ip node, Directory.nodeForIp? ip m = some node ↔
    Directory.getNode? node.hostname m = some node ∧ node.ipAddress = ip
  byPlatform : ∀ platform hostname,
    hostname ∈ m.nodes.byPlatform.values platform ↔ Serves m.nodes.byHostname platform hostname
  lists : ∀ (platform : String) (hostnames : List String),
    m.nodes.byPlatform[platform]? = some hostnames → hostnames ≠ [] ∧ hostnames.Nodup
  platforms : ∀ platform, platform ∈ Directory.platforms m ↔
    ∃ hostname, Serves m.nodes.byHostname platform hostname
  platformsSorted : (Directory.platforms m).Pairwise (· < ·)
  nodesForPlatform : ∀ platform node, node ∈ Directory.nodesForPlatform platform m ↔
    Directory.getNode? node.hostname m = some node ∧ platform ∈ node.platforms
  /-- Each node of a platform is listed once. -/
  nodesOnce : ∀ platform,
    ((Directory.nodesForPlatform platform m).map (·.hostname)).Nodup
  storeRefused : ∀ node, Directory.getNode? node.hostname m = none →
    ((∃ e, (Directory.storeNode node m).1 = .error e) ↔
      IpTaken m.nodes.byHostname node.ipAddress node.hostname)
  updateRefused : ∀ node, (Directory.getNode? node.hostname m).isSome →
    ((∃ e, (Directory.updateNode node m).1 = .error e) ↔
      IpTaken m.nodes.byHostname node.ipAddress node.hostname)
  stored : ∀ node answer, (Directory.storeNode node m).1 = .ok answer →
    answer = node ∧ HoldsNode node m (Directory.storeNode node m).2
  updated : ∀ node answer, (Directory.updateNode node m).1 = .ok answer →
    answer = node ∧ HoldsNode node m (Directory.updateNode node m).2

variable {m : Memory}

theorem Indexed.holdsNode {after : Memory} (h : after.Indexed) {node : Node}
    (written : after.nodes.byHostname = m.nodes.byHostname.insert node.hostname node) :
    HoldsNode node m after := by
  have found : after.nodes.byHostname[node.hostname]? = some node := by
    rw [written, Maps.getElem?_insert, if_pos rfl]
  constructor
  case found => exact found
  case others =>
    intro hostname other
    change after.nodes.byHostname[hostname]? = m.nodes.byHostname[hostname]?
    rw [written, Maps.getElem?_insert, if_neg other.symm]
  case byIp => exact (h.nodes.forIp?_eq_some_iff _ _).2 ⟨found, rfl⟩
  case onPlatforms =>
    exact fun platform => (h.nodes.mem_forPlatform_iff platform node).trans (and_iff_right found)

theorem Indexed.nodesFound (h : m.Indexed) : m.NodesFound where
  keyed := h.nodes.keyed
  byIp := h.nodes.ips
  ipsUnique := h.nodes.ipsUnique
  nodeForIp := h.nodes.forIp?_eq_some_iff
  byPlatform := h.nodes.platforms.mem_iff
  lists := by
    intro platform hostnames filed
    have nodup := h.nodes.platforms.nodup platform
    rw [Listing.values, filed] at nodup
    exact ⟨fun he => h.nodes.platforms.present platform (he ▸ filed), nodup⟩
  platforms := h.nodes.platforms.mem_keys
  platformsSorted := keys_sorted m.nodes.byPlatform
  nodesForPlatform := h.nodes.mem_forPlatform_iff
  nodesOnce := h.nodes.nodup_hostnames_forPlatform
  storeRefused := fun _ fresh => h.nodes.store_refused_iff fresh
  updateRefused := by
    intro node registered
    obtain ⟨previous, known⟩ := Option.isSome_iff_exists.1 registered
    exact h.nodes.update_refused_iff known
  stored := by
    intro node answer accepted
    obtain ⟨answered, written⟩ := Nodes.store_ok accepted
    exact ⟨answered, (h.run (.storeNode node)).holdsNode written⟩
  updated := by
    intro node answer accepted
    obtain ⟨answered, written⟩ := Nodes.update_ok accepted
    exact ⟨answered, (h.run (.updateNode node)).holdsNode written⟩

/-- After every history from the empty memory the indices of nodes are exact, and a node is refused
its IP address only when another node has it. -/
theorem node_indices_exact_after_history (ops : List Operation) :
    (Operation.runAll ({} : Memory) ops).2.NodesFound :=
  (indexed_empty.runAll ops).nodesFound

/-- A node moves to another platform and takes over the IP address of a removed one. -/
theorem node_indices_exact_after_move :
    let node (hostname ip platform : String) : Node :=
      ⟨hostname, ip, .ofList [platform], 1, 1, 0, false⟩
    let ops : List Operation := [.storeNode (node "a" "1" "p"), .storeNode (node "b" "2" "p"),
      .storeNode (node "c" "1" "q"), .removeNode "a", .updateNode (node "b" "1" "q")]
    let m := (Operation.runAll ({} : Memory) ops).2
    m.NodesFound ∧ Directory.nodeForIp? "1" m = some (node "b" "1" "q") ∧
      Directory.nodeForIp? "2" m = none ∧ Directory.platforms m = ["q"] ∧
      (Directory.storeNode (node "c" "1" "p") m).1 = .error (.alreadyExists .node "1") ∧
      (Directory.storeNode (node "c" "2" "p") m).1 = .ok (node "c" "2" "p") := by
  intro node ops m
  refine ⟨node_indices_exact_after_history ops, ?_⟩
  decide +kernel

/-! ## Calls -/

namespace Calls

variable {calls : Calls} {call : Call}

theorem Exact.drop_put (h : calls.Exact) (fresh : calls.byId[call.id]? = none) :
    (calls.put call).drop call = calls := by
  have absent (field : Call → String) : ¬ At calls.byId call.id (field · = field call) :=
    not_at_of_none fresh _
  have records : (calls.byId.insert call.id call).erase call.id = calls.byId := by
    apply Std.ExtTreeMap.ext_getElem?
    intro id
    rw [Maps.getElem?_erase, Maps.getElem?_insert]
    by_cases hid : call.id = id
    · rw [if_pos hid, ← hid, fresh]
    · rw [if_neg hid, if_neg hid]
  rw [Calls.put, Calls.drop, records, h.byClient.detach_attach (absent Call.client),
    h.byNode.detach_attach (absent Call.node)]

end Calls

/-- The call is found by its id, and listed for its client and its node alone; the others are as
they were. -/
structure HoldsCall (call : Call) (before after : Memory) : Prop where
  found : Directory.getCall? call.id after = some call
  others : ∀ id, id ≠ call.id → Directory.getCall? id after = Directory.getCall? id before
  ofClient : ∀ client, call.id ∈ Directory.callsForClient client after ↔ call.client = client
  onNode : ∀ hostname, call.id ∈ Directory.callsForNode hostname after ↔ call.node = hostname

structure CallsFound (m : Memory) : Prop where
  keyed : Keyed Call.id m.calls.byId
  forClient : ∀ client id, id ∈ Directory.callsForClient client m ↔
    ∃ call, Directory.getCall? id m = some call ∧ call.client = client
  forClientOnce : ∀ client, (Directory.callsForClient client m).Nodup
  forNode : ∀ hostname id, id ∈ Directory.callsForNode hostname m ↔
    ∃ call, Directory.getCall? id m = some call ∧ call.node = hostname
  forNodeOnce : ∀ hostname, (Directory.callsForNode hostname m).Nodup
  calls : ∀ id, id ∈ Directory.calls m ↔ (Directory.getCall? id m).isSome
  callsSorted : (Directory.calls m).Pairwise (· < ·)
  /-- No empty list is kept in an index. -/
  lists : ∀ key : String, m.calls.byClient[key]? ≠ some [] ∧ m.calls.byNode[key]? ≠ some []
  /-- A new call goes without a trace. -/
  undone : ∀ call, Directory.getCall? call.id m = none →
    (Directory.getNode? call.node m).isSome →
      ∃ stored, Directory.storeCall call m = (.ok call, stored) ∧
        Directory.removeCall call.id stored = (.ok call, m)
  /-- A call takes the place of the one of its id. -/
  stored : ∀ call answer, (Directory.storeCall call m).1 = .ok answer →
    answer = call ∧ HoldsCall call m (Directory.storeCall call m).2

theorem storeCall_ok {call answer : Call} (accepted : (Directory.storeCall call m).1 = .ok answer) :
    answer = call ∧ (Directory.storeCall call m).2.calls = m.calls.store call := by
  simp only [Directory.storeCall] at accepted ⊢
  split at accepted
  · next hosted =>
      cases accepted
      exact ⟨rfl, by rw [if_pos hosted]⟩
  · cases accepted

theorem Indexed.holdsCall (h : m.Indexed) {after : Memory} {call : Call} (exact : after.Indexed)
    (stored : after.calls = m.calls.store call) : HoldsCall call m after := by
  have written : after.calls.byId = m.calls.byId.insert call.id call := by
    rw [stored, h.calls.byId_store]
  have found : after.calls.byId[call.id]? = some call := by
    rw [written, Maps.getElem?_insert, if_pos rfl]
  constructor
  case found => exact found
  case others =>
    intro id other
    change after.calls.byId[id]? = m.calls.byId[id]?
    rw [written, Maps.getElem?_insert, if_neg other.symm]
  case ofClient =>
    exact fun client => (exact.calls.byClient.mem_iff client call.id).trans (at_of_some found _)
  case onNode =>
    exact fun hostname => (exact.calls.byNode.mem_iff hostname call.id).trans (at_of_some found _)

theorem Indexed.undone (h : m.Indexed) {call : Call}
    (fresh : Directory.getCall? call.id m = none)
    (hosted : (Directory.getNode? call.node m).isSome) :
    ∃ stored, Directory.storeCall call m = (.ok call, stored) ∧
      Directory.removeCall call.id stored = (.ok call, m) := by
  have absent : m.calls.byId[call.id]? = none := fresh
  have host : m.nodes.byHostname.contains call.node = true := by
    rw [Std.ExtTreeMap.contains_eq_isSome_getElem?]
    exact hosted
  have stores : Directory.storeCall call m =
      if m.nodes.byHostname.contains call.node then
        (.ok call, { m with calls := m.calls.store call })
      else (.error (.nodeNotFound call.node), m) := rfl
  have put : m.calls.store call = m.calls.put call := by simp [Calls.store, absent]
  have exact := h.calls.put absent
  have known : (m.calls.put call).byId[call.id]? = some call := by
    rw [Calls.put, Maps.getElem?_insert, if_pos rfl]
  rw [host, if_pos rfl, put] at stores
  refine ⟨_, stores, ?_⟩
  have removes : Directory.removeCall call.id { m with calls := m.calls.put call } =
      Memory.onCalls (Calls.remove call.id) { m with calls := m.calls.put call } := rfl
  rw [removes, Memory.onCalls, exact.remove_eq, known]
  simp only [h.calls.drop_put absent]

theorem Indexed.callsFound (h : m.Indexed) : m.CallsFound where
  keyed := h.calls.keyed
  forClient := h.calls.byClient.mem_iff
  forClientOnce := h.calls.byClient.nodup
  forNode := h.calls.byNode.mem_iff
  forNodeOnce := h.calls.byNode.nodup
  calls := by
    intro id
    have hkeys := Std.ExtTreeMap.mem_keys (t := m.calls.byId) (k := id)
    exact hkeys.trans Std.ExtTreeMap.mem_iff_isSome_getElem?
  callsSorted := keys_sorted m.calls.byId
  lists := fun key => ⟨h.calls.byClient.present key, h.calls.byNode.present key⟩
  undone := fun _ fresh hosted => h.undone fresh hosted
  stored := by
    intro call answer accepted
    obtain ⟨answered, stored⟩ := storeCall_ok accepted
    exact ⟨answered, h.holdsCall (h.run (.storeCall call)) stored⟩

/-- After every history from the empty memory the indices of calls are exact, and a new call on a
registered node can be removed without a trace. -/
theorem call_indices_exact_after_history (ops : List Operation) :
    (Operation.runAll ({} : Memory) ops).2.CallsFound :=
  (indexed_empty.runAll ops).callsFound

/-- A call is stored again for another client and on another node. -/
theorem call_indices_exact_after_restoring :
    let node (hostname : String) : Node := ⟨hostname, hostname, ∅, 1, 1, 0, false⟩
    let ops : List Operation := [.storeNode (node "a"), .storeNode (node "b"),
      .storeCall ⟨"1", "c@d", "a"⟩, .storeCall ⟨"2", "c@d", "a"⟩, .storeCall ⟨"1", "e@f", "b"⟩]
    let m := (Operation.runAll ({} : Memory) ops).2
    m.CallsFound ∧ Directory.getCall? "1" m = some ⟨"1", "e@f", "b"⟩ ∧
      Directory.callsForClient "c@d" m = ["2"] ∧ Directory.callsForNode "a" m = ["2"] ∧
      Directory.callsForClient "e@f" m = ["1"] ∧ Directory.callsForNode "b" m = ["1"] := by
  intro node ops m
  refine ⟨call_indices_exact_after_history ops, ?_⟩
  decide +kernel

end Switchboard.Memory
