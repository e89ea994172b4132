import Switchboard.Directory.Memory.Basic
import Switchboard.Proofs.Directory.Memory.Calls
import Switchboard.Proofs.Directory.Mirror.Nodes
import Switchboard.Proofs.Directory.Replicated.Calls

/-! # Calls on both directories

The index tables of calls list the ids that the listings in memory file.
-/

namespace Switchboard.Mirror

open Switchboard.Columns Switchboard.Maps Switchboard.Records Switchboard.Replicated

structure CallsMirrored (calls : Memory.Calls) (contents : Contents) : Prop where
  exact : calls.Exact
  stored : CallsStored calls.byId contents

variable {calls : Memory.Calls} {contents contents' : Contents}

theorem callsMirrored_empty (empty : ∀ table key, contents table key = ∅) :
    CallsMirrored {} contents where
  exact := Memory.Calls.exact_empty
  stored := callsStored_empty fun table _ => empty table

theorem CallsMirrored.of_contents_eq (h : CallsMirrored calls contents)
    (same : ∀ table ∈ callTables, contents' table = contents table) :
    CallsMirrored calls contents' where
  exact := h.exact
  stored := h.stored.of_contents_eq same

theorem CallsMirrored.store (h : CallsMirrored calls contents) (call : Call) :
    CallsMirrored (calls.store call)
      (contents.applyAll (replaceCall calls.byId[call.id]? call)) where
  exact := h.exact.store call
  stored := by
    rw [h.exact.byId_store]
    exact h.stored.write call

theorem CallsMirrored.drop (h : CallsMirrored calls contents) {call : Call}
    (known : calls.byId[call.id]? = some call) :
    CallsMirrored (calls.drop call) (contents.applyAll (dropCall call)) where
  exact := h.exact.drop known
  stored := h.stored.remove known

/-! ## Commands -/

variable {r : Replicated}

def storeHosted (nodes : Memory.Nodes) (call : Call) : Command Memory.Calls Call := fun calls =>
  if nodes.byHostname.contains call.node then (.ok call, calls.store call)
  else (.error (.nodeNotFound call.node), calls)

theorem storeCall_eq_storeHosted (m : Memory) (call : Call) :
    Directory.storeCall call m = Memory.onCalls (storeHosted m.nodes call) m := by
  have hrun : Directory.storeCall call m =
      if m.nodes.byHostname.contains call.node then
        (.ok call, { m with calls := m.calls.store call })
      else (.error (.nodeNotFound call.node), m) := rfl
  rw [hrun, Memory.onCalls, storeHosted]
  split
  · rfl
  · rfl

theorem matches_storeCall (live : r.Live) {nodes : Memory.Nodes}
    (hosts : NodesMirrored nodes r.contents) (h : CallsMirrored calls r.contents) (call : Call) :
    Matches callTables CallsMirrored r (storeHosted nodes call calls)
      (carryOut (planStoreCall call) r) := by
  obtain ⟨keyspace, ready⟩ := live.ready
  have plan := planStoreCall_eq ready live.reads hosts.stored h.stored call
  rw [storeHosted, Std.ExtTreeMap.contains_eq_isSome_getElem?]
  cases known : nodes.byHostname[call.node]? with
  | none =>
      rw [known] at plan
      exact matches_refused live h plan
  | some node =>
      rw [known] at plan
      exact matches_written live plan (within_replaceCall _ call) callTables_subset (h.store call)

theorem matches_removeCall (live : r.Live) (h : CallsMirrored calls r.contents) (id : String) :
    Matches callTables CallsMirrored r (Memory.Calls.remove id calls)
      (carryOut (planRemoveCall id) r) := by
  obtain ⟨keyspace, ready⟩ := live.ready
  have plan := planRemoveCall_eq ready live.reads h.stored id
  rw [h.exact.remove_eq id]
  cases known : calls.byId[id]? with
  | none =>
      rw [known] at plan
      exact matches_refused live h plan
  | some call =>
      have own := known
      rw [← h.exact.keyed id call known] at own
      rw [known] at plan
      exact matches_written live plan (within_dropCall call) callTables_subset (h.drop own)

/-! ## Look-ups -/

theorem getCall?_mirrored (live : r.Live) (h : CallsMirrored calls r.contents) (id : String) :
    Directory.getCall? id r = calls.byId[id]? := by
  obtain ⟨keyspace, ready⟩ := live.ready
  exact call?_eq ready live.reads h.stored id

theorem calls_mirrored (live : r.Live) (h : CallsMirrored calls r.contents) :
    calls.byId.keys = Directory.calls r := by
  refine keys_eq_rowKeys live (by decide) fun id => ?_
  rw [h.stored.rows, Std.ExtTreeMap.mem_iff_isSome_getElem?]
  cases calls.byId[id]? with
  | none => simp
  | some call => simp [Layout.callCells]

theorem callsForClient_mirrored (live : r.Live) (h : CallsMirrored calls r.contents)
    (jid : String) :
    (calls.byClient.values jid).Perm (Directory.callsForClient jid r) :=
  values_perm_columnNames live (by decide) h.exact.byClient (h.stored.byClient.exists_iff jid)

theorem callsForNode_mirrored (live : r.Live) (h : CallsMirrored calls r.contents)
    (hostname : String) :
    (calls.byNode.values hostname).Perm (Directory.callsForNode hostname r) :=
  values_perm_columnNames live (by decide) h.exact.byNode (h.stored.byNode.exists_iff hostname)

end Switchboard.Mirror
