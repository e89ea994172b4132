import Switchboard.Proofs.Directory.Refusal
import Switchboard.Proofs.Directory.Unfailing

/-! # Commands on nodes when nothing fails

An operation that is answered changes the node records as it says, and one that is refused
leaves them alone. A registered record can always be written back with the IP address that it
holds.
-/

namespace Switchboard

open Switchboard.Columns Switchboard.Maps Switchboard.Records
open Replicated (NodesStored Consistent)
open Replicated.Layout (readBack)

def Operation.onNodes (op : Operation) (nodes : NodeMap) : NodeMap :=
  match op with
  | .storeNode node | .updateNode node => nodes.insert node.hostname node
  | .removeNode hostname => nodes.erase hostname
  | _ => nodes

namespace Memory.Nodes

variable {nodes : Nodes} {node answer : Node}

theorem byHostname_remove_ok {hostname : String}
    (accepted : (remove hostname nodes).1 = .ok answer) :
    (remove hostname nodes).2.byHostname = nodes.byHostname.erase hostname := by
  unfold remove at accepted ⊢
  split at accepted
  · cases accepted
  · rfl

end Memory.Nodes

namespace Replicated

variable {r : Replicated} {keyspace : Keyspace} {nodes : NodeMap} {node answer : Node}

theorem contents_of_sameData {r r' : Replicated} (same : r.SameData r') :
    r'.contents = r.contents := by
  obtain ⟨hkeyspace, hcluster⟩ := same
  have hkeyspaces : r'.cluster.keyspaces = r.cluster.keyspaces := by rw [hcluster]
  simp [contents, hkeyspace, hkeyspaces]

theorem stored_of_storeNode_ok (ready : r.Ready keyspace) (reads : r.cluster.failReads = false)
    (stored : NodesStored nodes r.contents)
    (accepted : (carryOut (planStoreNode node) r).1 = .ok answer) :
    NodesStored (nodes.insert node.hostname node)
      (carryOut (planStoreNode node) r).2.contents := by
  rcases planStoreNode_cases ready reads stored node with ⟨fresh, free⟩ | ⟨e, refused⟩
  · have plan := planStoreNode_eq ready reads stored node
    simp only [fresh, if_neg free] at plan
    have named := (within_insertNode node).mono nodeTables_subset
    rw [ready.contents_of_carryOut_ok plan named accepted]
    exact stored.create fresh free
  · rw [carryOut_of_error refused] at accepted
    cases accepted

theorem stored_of_removeNode_ok (ready : r.Ready keyspace) (reads : r.cluster.failReads = false)
    (stored : NodesStored nodes r.contents) {hostname : String}
    (accepted : (carryOut (planRemoveNode hostname) r).1 = .ok answer) :
    NodesStored (nodes.erase hostname) (carryOut (planRemoveNode hostname) r).2.contents := by
  have plan := planRemoveNode_eq ready reads stored hostname
  cases known : nodes[hostname]? with
  | none =>
      simp only [known] at plan
      rw [carryOut_of_error plan] at accepted
      cases accepted
  | some record =>
      simp only [known] at plan
      obtain rfl := stored.keyed hostname record known
      have named := (within_dropNode (readBack record)).mono nodeTables_subset
      rw [ready.contents_of_carryOut_ok plan named accepted]
      exact stored.remove known

end Replicated

namespace Backend

variable {b : Backend} {nodes : NodeMap} {node : Node}

/-- What is refused leaves the node records alone. -/
theorem Holds.of_refused (holds : b.Holds nodes) {op : Operation} {e : DirectoryError}
    (refused : (op.run b).1 = .error e) : (op.run b).2.Holds nodes := by
  obtain ⟨nodes', -, holds'⟩ := holds.run op
  cases b with
  | memory m =>
      rw [run_memory] at refused ⊢
      rwa [Memory.eq_of_refused op m (op.run m).2 e (Prod.ext refused rfl)]
  | replicated r =>
      rw [run_replicated] at refused holds' ⊢
      obtain ⟨-, -, stored⟩ := holds
      have same := Replicated.sameData_of_refused (show op.run r = (.error e, (op.run r).2) from
        Prod.ext refused rfl)
      exact ⟨holds'.1, holds'.2.1, Replicated.contents_of_sameData same ▸ stored⟩

/-- What is answered changes the node records as it says. -/
theorem Holds.of_answered (holds : b.Holds nodes) (inOrder : b.InOrder) {op : Operation}
    {answer : Answer} (answered : (op.run b).1 = .ok answer) :
    (op.run b).2.Holds (op.onNodes nodes) := by
  obtain ⟨nodes', change, holds'⟩ := holds.run op
  cases op with
  | storeNode node =>
      obtain ⟨value, accepted, -⟩ := ok_of_map answered
      cases b with
      | memory m =>
          obtain ⟨-, rfl⟩ := holds
          exact ⟨holds'.1, (Memory.Nodes.store_ok accepted).2⟩
      | replicated r =>
          obtain ⟨⟨keyspace, ready⟩, -, stored⟩ := holds
          exact ⟨holds'.1, holds'.2.1,
            Replicated.stored_of_storeNode_ok ready inOrder.1.reads stored accepted⟩
  | updateNode node =>
      obtain ⟨value, accepted, -⟩ := ok_of_map answered
      exact holds.updateNode_ok accepted
  | removeNode hostname =>
      obtain ⟨value, accepted, -⟩ := ok_of_map answered
      cases b with
      | memory m =>
          obtain ⟨-, rfl⟩ := holds
          exact ⟨holds'.1, Memory.Nodes.byHostname_remove_ok accepted⟩
      | replicated r =>
          obtain ⟨⟨keyspace, ready⟩, -, stored⟩ := holds
          exact ⟨holds'.1, holds'.2.1,
            Replicated.stored_of_removeNode_ok ready inOrder.1.reads stored accepted⟩
  | _ =>
      cases change
      exact holds'

/-- A registered node can be updated as long as it stays at its IP address. -/
theorem Holds.updateNode_accepted (holds : b.Holds nodes) (inOrder : b.InOrder) {previous : Node}
    (known : nodes[node.hostname]? = some previous) (same : node.ipAddress = previous.ipAddress) :
    (Directory.updateNode node b).1 = .ok node := by
  cases b with
  | memory m =>
      obtain ⟨indexed, rfl⟩ := holds
      have free : ¬ IpTaken m.nodes.byHostname node.ipAddress node.hostname := by
        rintro ⟨owner, other, held⟩
        exact other (indexed.nodes.ipsUnique _ _ _ held ⟨previous, known, same.symm⟩)
      have updated := indexed.nodes.update_eq node
      simp only [known, if_neg free] at updated
      exact congrArg Prod.fst updated
  | replicated r =>
      obtain ⟨⟨keyspace, ready⟩, -, stored⟩ := holds
      have free : ¬ IpTaken nodes node.ipAddress node.hostname := by
        rintro ⟨owner, other, held⟩
        exact other (stored.ipsUnique _ _ _ held ⟨previous, known, same.symm⟩)
      have plan := Replicated.planUpdateNode_eq ready inOrder.1.reads stored node
      simp only [known, if_neg free] at plan
      have named := (Replicated.within_replaceNode (readBack previous) node).mono
        Replicated.nodeTables_subset
      obtain ⟨r', written, -⟩ := inOrder.1.carryOut_of_write plan named
      exact congrArg Prod.fst written

/-- A node is shown with the count of failures in its record. -/
theorem Holds.consecutiveErrors (holds : b.Holds nodes) (inOrder : b.InOrder)
    (hostname : String) :
    (Directory.getNode? hostname b).map (·.consecutiveErrors) =
      (nodes[hostname]?).map (·.consecutiveErrors) := by
  cases b with
  | memory m =>
      obtain ⟨-, rfl⟩ := holds
      rfl
  | replicated r =>
      obtain ⟨⟨keyspace, ready⟩, -, stored⟩ := holds
      refine (congrArg (Option.map _) (Replicated.node?_eq ready inOrder.1.reads stored _)).trans ?_
      rw [Option.map_map]
      rfl

end Backend

end Switchboard
