import Switchboard.Directory.Memory.Basic
import Switchboard.Directory.Operation
import Switchboard.Proofs.Directory.Memory.Calls
import Switchboard.Proofs.Directory.Memory.Nodes

/-! # Histories of a directory in memory

A command writes a record together with its index entries or leaves both alone, so the
indices of nodes and of calls are those of the records after every history, whatever its
arguments are.
-/

namespace Switchboard.Memory

open Switchboard.Maps Switchboard.Records

/-! ## Commands on nodes -/

namespace Nodes

variable {nodes : Nodes}

theorem Exact.store (h : nodes.Exact) (node : Node) : (Nodes.store node nodes).2.Exact := by
  rw [h.store_eq]
  cases known : nodes.byHostname[node.hostname]? with
  | some previous => exact h
  | none =>
      by_cases taken : IpTaken nodes.byHostname node.ipAddress node.hostname
      · simpa [taken] using h
      · simpa [taken] using h.create known taken

theorem Exact.update (h : nodes.Exact) (node : Node) : (Nodes.update node nodes).2.Exact := by
  rw [h.update_eq]
  cases known : nodes.byHostname[node.hostname]? with
  | none => exact h
  | some previous =>
      by_cases taken : IpTaken nodes.byHostname node.ipAddress node.hostname
      · simpa [taken] using h
      · simpa [taken] using h.replace known taken

theorem Exact.remove (h : nodes.Exact) (hostname : String) :
    (Nodes.remove hostname nodes).2.Exact := by
  rw [h.remove_eq]
  cases known : nodes.byHostname[hostname]? with
  | none => exact h
  | some node =>
      rw [← h.keyed hostname node known] at known
      exact h.drop known

end Nodes

theorem Calls.Exact.remove {calls : Calls} (h : calls.Exact) (id : String) :
    (Calls.remove id calls).2.Exact := by
  rw [h.remove_eq]
  cases known : calls.byId[id]? with
  | none => exact h
  | some call =>
      rw [← h.keyed id call known] at known
      exact h.drop known

/-! ## Histories -/

structure Indexed (m : Memory) : Prop where
  nodes : m.nodes.Exact
  calls : m.calls.Exact

theorem indexed_empty : Indexed {} where
  nodes := Nodes.exact_empty
  calls := Calls.exact_empty

variable {m : Memory}

theorem Indexed.run (h : m.Indexed) (op : Operation) : (op.run m).2.Indexed := by
  cases op with
  | storeNode node => exact ⟨h.nodes.store node, h.calls⟩
  | updateNode node => exact ⟨h.nodes.update node, h.calls⟩
  | removeNode hostname => exact ⟨h.nodes.remove hostname, h.calls⟩
  | storeCall call =>
      have hrun : ((Operation.storeCall call).run m).2 =
          (if m.nodes.byHostname.contains call.node then
            (.ok call, { m with calls := m.calls.store call })
          else (.error (.nodeNotFound call.node), m) :
            Except DirectoryError Call × Memory).2 := rfl
      rw [hrun]
      split
      · exact ⟨h.nodes, h.calls.store call⟩
      · exact h
  | removeCall id => exact ⟨h.nodes, h.calls.remove id⟩
  | _ => exact ⟨h.nodes, h.calls⟩

/-- The indices are exact after every history. -/
theorem Indexed.runAll (h : m.Indexed) (ops : List Operation) :
    (Operation.runAll m ops).2.Indexed := by
  induction ops generalizing m with
  | nil => exact h
  | cons op rest ih => exact ih (h.run op)

end Switchboard.Memory
