import Switchboard.Proofs.Directory.Replicated.Nodes

/-! # Calls in the tables

The call tables hold the rows of call records, and each call is listed under its client
and under its node and nowhere else.
-/

namespace Switchboard.Replicated

open Switchboard.Columns Switchboard.Maps Switchboard.Records
open Layout (callCells)

def callTables : List String := [Layout.calls, Layout.clientCalls, Layout.nodeCalls]

theorem callTables_subset : callTables ⊆ tableNames := by decide

structure CallsStored (calls : CallMap) (contents : Contents) : Prop where
  keyed : Keyed Call.id calls
  rows : ∀ id, contents Layout.calls id = (calls[id]?).elim ∅ callCells
  byClient : contents.Lists Layout.clientCalls (OfClient calls)
  byNode : contents.Lists Layout.nodeCalls (OnNode calls)

variable {calls : CallMap} {contents contents' : Contents}

theorem CallsStored.of_contents_eq (stored : CallsStored calls contents)
    (same : ∀ table ∈ callTables, contents' table = contents table) :
    CallsStored calls contents' where
  keyed := stored.keyed
  rows := by
    intro id
    rw [same Layout.calls (by decide)]
    exact stored.rows id
  byClient := stored.byClient.of_contents_eq (same Layout.clientCalls (by decide))
  byNode := stored.byNode.of_contents_eq (same Layout.nodeCalls (by decide))

theorem callsStored_empty (empty : ∀ table ∈ callTables, ∀ key, contents table key = ∅) :
    CallsStored ∅ contents where
  keyed := Keyed.empty
  rows := by
    intro id
    rw [empty Layout.calls (by decide)]
    simp
  byClient := by
    intro key name value
    rw [empty Layout.clientCalls (by decide)]
    simp [OfClient, At]
  byNode := by
    intro key name value
    rw [empty Layout.nodeCalls (by decide)]
    simp [OnNode, At]

/-! ## One index -/

section Index

variable {table : String} {field : Call → String}

/-- A call that goes is taken off the index. -/
theorem lists_unlist (h : contents.Lists table fun key id => At calls id (field · = key))
    {call : Call} (known : calls[call.id]? = some call) :
    (contents.apply (.deleteColumn table (field call) call.id)).Lists table
      fun key id => At (calls.erase call.id) id (field · = key) := by
  refine (h.deleteColumn (field call) call.id).congr fun key id => ?_
  exact (at_field_erase_iff field known key id).symm

/-- A call whose id is in no entry is put on the index. -/
theorem lists_list (h : contents.Lists table fun key id => At calls id (field · = key))
    {call : Call} (fresh : calls[call.id]? = none) :
    (contents.apply (.insert table (field call) call.id call.id)).Lists table
      fun key id => At (calls.insert call.id call) id (field · = key) := by
  refine (h.insert (field call) call.id).congr fun key id => ?_
  exact (at_field_insert_iff field fresh key id).symm

end Index

/-! ## Batches -/

def replaceCall (previous : Option Call) (call : Call) : Batch :=
  previous.elim [] Layout.unlistCall ++ Layout.insertCall call

def dropCall (call : Call) : Batch :=
  Layout.unlistCall call ++ [.deleteRow Layout.calls call.id]

theorem within_unlistCall (call : Call) : Contents.Within callTables (Layout.unlistCall call) :=
  Contents.within_of_subset (show [Layout.clientCalls, Layout.nodeCalls] ⊆ callTables by decide)

theorem within_insertCall (call : Call) : Contents.Within callTables (Layout.insertCall call) :=
  Contents.within_of_subset
    (show [Layout.calls, Layout.calls, Layout.clientCalls, Layout.nodeCalls] ⊆ callTables by decide)

theorem within_replaceCall (previous : Option Call) (call : Call) :
    Contents.Within callTables (replaceCall previous call) := by
  cases previous with
  | none => exact within_insertCall call
  | some previous => exact (within_unlistCall previous).append (within_insertCall call)

theorem within_dropCall (call : Call) : Contents.Within callTables (dropCall call) := by
  have row : Contents.Within callTables [.deleteRow Layout.calls call.id] :=
    Contents.within_of_subset (show [Layout.calls] ⊆ callTables by decide)
  exact (within_unlistCall call).append row

/-- The indices after a call is taken off them; its row is still there. -/
theorem CallsStored.unlist (stored : CallsStored calls contents) {call : Call}
    (known : calls[call.id]? = some call) :
    let after := contents.applyAll (Layout.unlistCall call)
    after Layout.calls = contents Layout.calls ∧
      after.Lists Layout.clientCalls (OfClient (calls.erase call.id)) ∧
      after.Lists Layout.nodeCalls (OnNode (calls.erase call.id)) := by
  refine ⟨Contents.applyAll_of_filter contents rfl, ?_, ?_⟩
  · exact (lists_unlist stored.byClient known).of_contents_eq
      (Contents.applyAll_of_filter contents rfl)
  · exact (lists_unlist stored.byNode known).of_contents_eq
      (Contents.applyAll_of_filter contents rfl)

theorem insertCall_calls (contents : Contents) (call : Call) (id : String) :
    contents.applyAll (Layout.insertCall call) Layout.calls id =
      if call.id = id then
        ((contents Layout.calls call.id).insert "jid" call.client).insert "node" call.node
      else contents Layout.calls id := by
  have kept : contents.applyAll (Layout.insertCall call) Layout.calls =
      contents.applyAll [.insert Layout.calls call.id "jid" call.client,
        .insert Layout.calls call.id "node" call.node] Layout.calls :=
    Contents.applyAll_of_filter contents rfl
  rw [kept]
  by_cases hid : call.id = id
  · simp [Contents.apply, Contents.set, hid]
  · simp [Contents.apply, Contents.set, hid]

theorem writeCall_callCells (old new : Call) :
    ((callCells old).insert "jid" new.client).insert "node" new.node = callCells new := by
  apply Std.ExtTreeMap.ext_getElem?
  intro name
  simp only [callCells, Maps.getElem?_insert]
  grind

/-- The rows after a call is written to its row. -/
theorem rows_insertCall
    (rows : ∀ id, contents Layout.calls id = (calls[id]?).elim ∅ callCells) (call : Call)
    (id : String) :
    contents.applyAll (Layout.insertCall call) Layout.calls id =
      ((calls.insert call.id call)[id]?).elim ∅ callCells := by
  rw [insertCall_calls, Maps.getElem?_insert]
  by_cases hid : call.id = id
  · rw [if_pos hid, if_pos hid, Option.elim_some, rows]
    cases calls[call.id]? with
    | none => rfl
    | some old => exact writeCall_callCells old call
  · rw [if_neg hid, if_neg hid]
    exact rows id

theorem CallsStored.write (stored : CallsStored calls contents) (call : Call) :
    CallsStored (calls.insert call.id call)
      (contents.applyAll (replaceCall calls[call.id]? call)) := by
  cases known : calls[call.id]? with
  | none =>
      refine ⟨stored.keyed.insert call, rows_insertCall stored.rows call, ?_, ?_⟩
      · exact (lists_list stored.byClient known).of_contents_eq
          (Contents.applyAll_of_filter contents rfl)
      · exact (lists_list stored.byNode known).of_contents_eq
          (Contents.applyAll_of_filter contents rfl)
  | some previous =>
      have hkey := stored.keyed call.id previous known
      have gone : (calls.erase call.id)[call.id]? = none := by simp
      rw [← hkey] at known
      obtain ⟨rows, byClient, byNode⟩ := stored.unlist known
      rw [hkey] at byClient byNode
      have again (id : String) (property : Call → Prop) :
          At ((calls.erase call.id).insert call.id call) id property ↔
            At (calls.insert call.id call) id property := by
        rw [at_insert, at_insert, at_erase]
        by_cases hid : call.id = id
        · simp [hid]
        · simp [hid]
      rw [replaceCall, Option.elim_some, Contents.applyAll_append]
      refine ⟨stored.keyed.insert call, rows_insertCall ?_ call, ?_, ?_⟩
      · intro id
        rw [rows]
        exact stored.rows id
      · refine Contents.Lists.congr (Contents.Lists.of_contents_eq (lists_list byClient gone)
          (Contents.applyAll_of_filter _ rfl)) fun client id => again id _
      · refine Contents.Lists.congr (Contents.Lists.of_contents_eq (lists_list byNode gone)
          (Contents.applyAll_of_filter _ rfl)) fun node id => again id _

theorem CallsStored.remove (stored : CallsStored calls contents) {call : Call}
    (known : calls[call.id]? = some call) :
    CallsStored (calls.erase call.id) (contents.applyAll (dropCall call)) := by
  obtain ⟨rows, byClient, byNode⟩ := stored.unlist known
  rw [dropCall, Contents.applyAll_append]
  refine ⟨stored.keyed.erase call.id, ?_, ?_, ?_⟩
  · intro id
    rw [Contents.applyAll_cons, Contents.applyAll_nil, Contents.apply, Contents.set, rows,
      Maps.getElem?_erase]
    by_cases hid : call.id = id
    · simp [hid]
    · rw [if_neg (fun h => hid h.2), if_neg hid]
      exact stored.rows id
  · exact byClient.of_contents_eq (Contents.applyAll_of_filter _ rfl)
  · exact byNode.of_contents_eq (Contents.applyAll_of_filter _ rfl)

/-! ## Reads and plans -/

section Reading

variable {r : Replicated} {keyspace : Keyspace}

theorem fetchCall_eq (ready : r.Ready keyspace) (reads : r.cluster.failReads = false)
    (stored : CallsStored calls r.contents) (id : String) :
    r.fetchCall id = .ok calls[id]? := by
  rw [fetchCall, ready.fetch_of_reads (by decide) reads, stored.rows]
  cases known : calls[id]? with
  | none => simp [Except.map, Layout.call?_empty]
  | some call =>
      have hkey := stored.keyed id call known
      subst hkey
      simp [Except.map, Layout.call?_callCells]

theorem call?_eq (ready : r.Ready keyspace) (reads : r.cluster.failReads = false)
    (stored : CallsStored calls r.contents) (id : String) :
    Layout.call? id (r.columns Layout.calls id) = calls[id]? := by
  have fetched := fetchCall_eq ready reads stored id
  rw [fetchCall, ready.fetch_of_reads (by decide) reads] at fetched
  rw [ready.columns_eq (by decide) reads]
  simpa [Except.map] using fetched

theorem planRemoveCall_eq (ready : r.Ready keyspace) (reads : r.cluster.failReads = false)
    (stored : CallsStored calls r.contents) (id : String) :
    planRemoveCall id r =
      match calls[id]? with
      | none => .error (.notFound .call id)
      | some call => .ok (.write (dropCall call) s!"Could not remove call [{id}]" call) := by
  rw [planRemoveCall, fetchCall_eq ready reads stored]
  cases known : calls[id]? with
  | none => rfl
  | some call =>
      have hkey := stored.keyed id call known
      subst hkey
      rfl

theorem planStoreCall_eq (ready : r.Ready keyspace) (reads : r.cluster.failReads = false)
    {nodes : NodeMap} (nodesStored : NodesStored nodes r.contents)
    (stored : CallsStored calls r.contents) (call : Call) :
    planStoreCall call r =
      match nodes[call.node]? with
      | none => .error (.nodeNotFound call.node)
      | some _ => .ok (.write (replaceCall calls[call.id]? call)
          s!"Could not store call [{call.id}]" call) := by
  rw [planStoreCall, fetchNode_eq ready reads nodesStored]
  cases nodes[call.node]? with
  | none => rfl
  | some node =>
      rw [fetchCall_eq ready reads stored]
      cases calls[call.id]? with
      | none => rfl
      | some previous => rfl

theorem plans_storeCall (ready : r.Ready keyspace) {nodes : NodeMap}
    (nodesStored : NodesStored nodes r.contents) (stored : CallsStored calls r.contents)
    {call : Call} {batch : Batch} (h : Plans (planStoreCall call) r batch) :
    (nodes[call.node]?).isSome ∧ batch = replaceCall calls[call.id]? call := by
  have first (e : DirectoryError) (he : r.fetch Layout.nodes call.node = .error e) :
      planStoreCall call r = .error e := by
    rw [planStoreCall, fetchNode, he]
    rfl
  have reads := ready.reads_of_plans (by decide) first h
  obtain ⟨context, answer, hp⟩ := h
  rw [planStoreCall_eq ready reads nodesStored stored] at hp
  cases known : nodes[call.node]? with
  | none =>
      rw [known] at hp
      cases hp
  | some node =>
      rw [known] at hp
      cases hp
      exact ⟨rfl, rfl⟩

theorem plans_removeCall (ready : r.Ready keyspace) (stored : CallsStored calls r.contents)
    {id : String} {batch : Batch} (h : Plans (planRemoveCall id) r batch) :
    ∃ call, calls[id]? = some call ∧ batch = dropCall call := by
  have first (e : DirectoryError) (he : r.fetch Layout.calls id = .error e) :
      planRemoveCall id r = .error e := by
    rw [planRemoveCall, fetchCall, he]
    rfl
  have reads := ready.reads_of_plans (by decide) first h
  obtain ⟨context, answer, hp⟩ := h
  rw [planRemoveCall_eq ready reads stored] at hp
  cases known : calls[id]? with
  | none =>
      rw [known] at hp
      cases hp
  | some call =>
      rw [known] at hp
      cases hp
      exact ⟨_, rfl, rfl⟩

end Reading

end Switchboard.Replicated
