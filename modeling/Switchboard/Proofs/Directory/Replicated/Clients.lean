import Switchboard.Proofs.Directory.Records
import Switchboard.Proofs.Directory.Replicated.Access
import Switchboard.Proofs.Jid.Raw

/-! # Clients in the tables

A client is one column, in the row of its bare JID and under its resource. Both parts
together determine the JID, so different clients never share a column.
-/

namespace Switchboard.Replicated

open Switchboard.Columns Switchboard.Maps Switchboard.Records
open RawJid (NoBareSlash bare resource)

def clientTables : List String := [Layout.clients]

theorem clientTables_subset : clientTables ⊆ tableNames := by decide

structure ClientsStored (clients : ClientMap) (contents : Contents) : Prop where
  cut : Cut clients
  cells : ∀ jid, NoBareSlash jid →
    (contents Layout.clients (bare jid))[resource jid]? = (clients[jid]?).map (·.platform)
  owned : ∀ row name, (∃ platform, (contents Layout.clients row)[name]? = some platform) ↔
    HasResource clients row name

variable {clients : ClientMap} {contents contents' : Contents}

theorem ClientsStored.of_contents_eq (stored : ClientsStored clients contents)
    (same : contents' Layout.clients = contents Layout.clients) :
    ClientsStored clients contents' where
  cut := stored.cut
  cells := by
    rw [same]
    exact stored.cells
  owned := by
    rw [same]
    exact stored.owned

theorem clientsStored_empty (empty : ∀ key, contents Layout.clients key = ∅) :
    ClientsStored ∅ contents where
  cut := cut_empty
  cells := by
    intro jid _
    rw [empty]
    simp
  owned := by
    intro row name
    rw [empty]
    simp [HasResource, At]

/-! ## Batches -/

theorem ClientsStored.write (stored : ClientsStored clients contents) {jid : String}
    (h : NoBareSlash jid) (platform : String) :
    ClientsStored (clients.insert jid (Client.ofJid jid platform))
      (contents.applyAll [.insert Layout.clients (bare jid) (resource jid) platform]) where
  cut := stored.cut.insert h platform
  cells := by
    intro other hother
    rw [Contents.applyAll_cons, Contents.applyAll_nil, Contents.getElem?_apply_insert,
      Maps.getElem?_insert, stored.cells other hother]
    by_cases hk : jid = other
    · simp [hk, Client.ofJid]
    · have hparts : ¬ (bare jid = bare other ∧ resource jid = resource other) :=
        fun hp => hk (RawJid.eq_of_parts_eq h hother hp.1 hp.2)
      rw [if_neg hparts, if_neg hk]
  owned := by
    intro row name
    rw [stored.cut.made.hasResource_insert_iff, ← stored.owned, Contents.applyAll_cons,
      Contents.applyAll_nil, Contents.getElem?_apply_insert]
    by_cases hparts : bare jid = row ∧ resource jid = name
    · simp [hparts]
    · simp [hparts]

theorem ClientsStored.remove (stored : ClientsStored clients contents) {jid : String}
    (h : NoBareSlash jid) :
    ClientsStored (clients.erase jid)
      (contents.apply (.deleteColumn Layout.clients (bare jid) (resource jid))) where
  cut := stored.cut.erase jid
  cells := by
    intro other hother
    rw [Contents.getElem?_apply_deleteColumn, Maps.getElem?_erase, stored.cells other hother]
    by_cases hk : jid = other
    · simp [hk]
    · have hparts : ¬ (bare jid = bare other ∧ resource jid = resource other) :=
        fun hp => hk (RawJid.eq_of_parts_eq h hother hp.1 hp.2)
      rw [if_neg hparts, if_neg hk]
  owned := by
    intro row name
    rw [stored.cut.made.hasResource_erase_iff (stored.cut.not_doubled h), ← stored.owned,
      Contents.getElem?_apply_deleteColumn]
    by_cases hparts : bare jid = row ∧ resource jid = name
    · simp [hparts]
    · simp [hparts]

theorem within_insertClient (client : Client) : Contents.Within clientTables
    [.insert Layout.clients client.bareJid client.resource client.platform] :=
  Contents.within_of_subset (show [Layout.clients] ⊆ clientTables by decide)

/-- The changes that remove a client from its row: the last column goes with the whole row. -/
def dropClient (contents : Contents) (jid : String) : Batch :=
  if (contents Layout.clients (bare jid)).columns.length = 1 then
    [.deleteRow Layout.clients (bare jid)]
  else [.deleteColumn Layout.clients (bare jid) (resource jid)]

theorem within_dropClient (contents : Contents) (jid : String) :
    Contents.Within clientTables (dropClient contents jid) := by
  have own : [Layout.clients] ⊆ clientTables := by decide
  unfold dropClient
  split
  · exact Contents.within_of_subset own
  · exact Contents.within_of_subset own

/-- Removing a row with one column is removing the column. -/
theorem erase_of_single {cells : Cells} {name value : String} (single : cells.columns.length = 1)
    (cell : cells[name]? = some value) : cells.erase name = ∅ := by
  have hmem : cells.contains name := by
    rw [Std.ExtTreeMap.contains_eq_isSome_getElem?, cell]
    rfl
  have hsize : cells.size = 1 := by simpa [Cells.columns] using single
  have herase : (cells.erase name).size = 0 := by
    rw [Std.ExtTreeMap.size_erase, if_pos hmem, hsize]
  exact Std.ExtTreeMap.eq_empty_iff_size_eq_zero.2 herase

theorem applyAll_dropClient {jid platform : String}
    (cell : (contents Layout.clients (bare jid))[resource jid]? = some platform) :
    contents.applyAll (dropClient contents jid) =
      contents.apply (.deleteColumn Layout.clients (bare jid) (resource jid)) := by
  unfold dropClient
  split
  · next single =>
      rw [Contents.applyAll_cons, Contents.applyAll_nil, Contents.apply, Contents.apply,
        erase_of_single single cell]
  · rfl

/-! ## Reads and plans -/

section Reading

variable {r : Replicated} {keyspace : Keyspace}

theorem client?_eq (stored : ClientsStored clients contents) {jid : String} (h : NoBareSlash jid) :
    Layout.client? jid (contents Layout.clients (bare jid)).columns = clients[jid]? := by
  rw [Layout.client?, column?_columns, stored.cells jid h]
  cases known : clients[jid]? with
  | none => rfl
  | some client => exact congrArg some (stored.cut jid client known).2.symm

theorem planRemoveClient_eq (ready : r.Ready keyspace) (reads : r.cluster.failReads = false)
    (stored : ClientsStored clients r.contents) {jid : String} (h : NoBareSlash jid) :
    planRemoveClient jid r =
      match clients[jid]? with
      | none => .error (.notFound .client jid)
      | some client => .ok (.write (dropClient r.contents jid)
          s!"Could not remove client [{jid}]" client) := by
  have hclient := client?_eq stored h
  simp only [planRemoveClient, ready.fetch_of_reads (by decide : Layout.clients ∈ tableNames) reads,
    ok_bind, hclient]
  cases clients[jid]? <;> rfl

end Reading

theorem plans_storeClient {r : Replicated} {client : Client} {batch : Batch}
    (h : Plans (planStoreClient client) r batch) :
    batch = [.insert Layout.clients client.bareJid client.resource client.platform] := by
  obtain ⟨context, answer, hp⟩ := h
  cases hp
  rfl

theorem within_planStoreClient {r : Replicated} {client : Client} {batch : Batch}
    (h : Plans (planStoreClient client) r batch) : Contents.Within clientTables batch := by
  rw [plans_storeClient h]
  exact within_insertClient client

/-- Whatever client a row describes, its removal stays in the client table. -/
theorem within_planRemoveClient {r : Replicated} {jid : String} {batch : Batch}
    (h : Plans (planRemoveClient jid) r batch) : Contents.Within clientTables batch := by
  obtain ⟨context, answer, hp⟩ := h
  unfold planRemoveClient at hp
  cases hf : r.fetch Layout.clients (bare jid) with
  | error e =>
      simp only [hf] at hp
      cases hp
  | ok columns =>
      simp only [hf, ok_bind] at hp
      split at hp
      · cases hp
      · have own : [Layout.clients] ⊆ clientTables := by decide
        cases hp
        split
        · exact Contents.within_of_subset own
        · exact Contents.within_of_subset own

end Switchboard.Replicated
