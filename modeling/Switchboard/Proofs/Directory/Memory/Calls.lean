import Switchboard.Directory.Memory.Calls
import Switchboard.Proofs.Directory.Memory.Listing
import Switchboard.Proofs.Directory.Records

/-! # Call records and their indices in memory

Both listings are exact: the ids of the calls are filed under their client and under
their node.
-/

namespace Switchboard.Memory.Calls

open Switchboard.Maps Switchboard.Records

structure Exact (calls : Calls) : Prop where
  keyed : Keyed Call.id calls.byId
  byClient : calls.byClient.Files (OfClient calls.byId)
  byNode : calls.byNode.Files (OnNode calls.byId)

variable {calls : Calls} {call : Call}

theorem exact_empty : Exact {} where
  keyed := Keyed.empty
  byClient := Listing.files_empty.congr fun client id => by simp [OfClient, At]
  byNode := Listing.files_empty.congr fun node id => by simp [OnNode, At]

theorem Exact.put (h : calls.Exact) (fresh : calls.byId[call.id]? = none) :
    (calls.put call).Exact where
  keyed := h.keyed.insert call
  byClient := (h.byClient.attach call.client call.id).congr fun client id =>
    (at_field_insert_iff Call.client fresh client id).symm
  byNode := (h.byNode.attach call.node call.id).congr fun node id =>
    (at_field_insert_iff Call.node fresh node id).symm

theorem Exact.drop (h : calls.Exact) (known : calls.byId[call.id]? = some call) :
    (calls.drop call).Exact where
  keyed := h.keyed.erase call.id
  byClient := (h.byClient.detach call.client call.id).congr fun client id =>
    (at_field_erase_iff Call.client known client id).symm
  byNode := (h.byNode.detach call.node call.id).congr fun node id =>
    (at_field_erase_iff Call.node known node id).symm

/-- A call that takes the place of another is put where nothing is left of the other. -/
theorem Exact.store (h : calls.Exact) (call : Call) : (calls.store call).Exact := by
  unfold Calls.store
  cases known : calls.byId[call.id]? with
  | none => exact h.put known
  | some previous =>
      have hkey := h.keyed call.id previous known
      have dropped : (calls.drop previous).Exact := by
        rw [← hkey] at known
        exact h.drop known
      have gone : (calls.drop previous).byId[call.id]? = none := by
        rw [Calls.drop, hkey]
        exact Std.ExtTreeMap.getElem?_erase_self
      exact dropped.put gone

theorem Exact.byId_store (h : calls.Exact) (call : Call) :
    (calls.store call).byId = calls.byId.insert call.id call := by
  unfold Calls.store
  cases known : calls.byId[call.id]? with
  | none => rfl
  | some previous =>
      have hkey := h.keyed call.id previous known
      apply Std.ExtTreeMap.ext_getElem?
      intro id
      simp only [Calls.put, Calls.drop, hkey, Maps.getElem?_insert, Maps.getElem?_erase]
      by_cases hid : call.id = id
      · rw [if_pos hid, if_pos hid]
      · rw [if_neg hid, if_neg hid, if_neg hid]

theorem Exact.remove_eq (h : calls.Exact) (id : String) :
    Calls.remove id calls =
      match calls.byId[id]? with
      | none => (.error (.notFound .call id), calls)
      | some call => (.ok call, calls.drop call) := by
  rw [Calls.remove]
  cases known : calls.byId[id]? with
  | none => rfl
  | some call =>
      have hkey := h.keyed id call known
      subst hkey
      rfl

end Switchboard.Memory.Calls
