import Switchboard.Proofs.Directory.Memory.Applications
import Switchboard.Proofs.Directory.Mirror.Basic
import Switchboard.Proofs.Directory.Replicated.Applications
import Switchboard.Proofs.Directory.Replicated.Clients

/-! # Clients, applications and addresses on both directories

The row of a bare JID has the resources that the listing in memory files under it, and the
row of an address names its owner in memory.
-/

namespace Switchboard.Mirror

open Switchboard.Columns Switchboard.Maps Switchboard.Records Switchboard.Replicated
open RawJid (NoBareSlash bare resource)

structure ApplicationsMirrored (apps : Memory.Applications) (contents : Contents) : Prop where
  exact : apps.Exact
  clients : ClientsStored apps.clients contents
  stored : ApplicationsStored apps.applications apps.owners contents

variable {apps : Memory.Applications} {contents contents' : Contents}

theorem applicationsMirrored_empty (empty : ∀ table key, contents table key = ∅) :
    ApplicationsMirrored {} contents where
  exact := Memory.Applications.exact_empty
  clients := clientsStored_empty (empty Layout.clients)
  stored := applicationsStored_empty fun table _ => empty table

theorem ApplicationsMirrored.of_contents_eq (h : ApplicationsMirrored apps contents)
    (same : ∀ table ∈ clientTables ++ applicationTables, contents' table = contents table) :
    ApplicationsMirrored apps contents' where
  exact := h.exact
  clients := h.clients.of_contents_eq (same Layout.clients (by decide))
  stored := h.stored.of_contents_eq fun table hin => same table (List.mem_append_right _ hin)

section Batches

variable {batch : Batch}

theorem ApplicationsMirrored.clients_kept (h : ApplicationsMirrored apps contents)
    (within : Contents.Within applicationTables batch) :
    ClientsStored apps.clients (contents.applyAll batch) :=
  h.clients.of_contents_eq (within.applyAll_eq contents (by decide))

theorem ApplicationsMirrored.stored_kept (h : ApplicationsMirrored apps contents)
    (within : Contents.Within clientTables batch) :
    ApplicationsStored apps.applications apps.owners (contents.applyAll batch) :=
  h.stored.of_contents_eq (within.keeps (by decide))

end Batches

/-! ## Commands on clients -/

variable {r : Replicated}

theorem matches_storeClient (live : r.Live) (h : ApplicationsMirrored apps r.contents)
    {client : Client} (made : client = Client.ofJid client.jid client.platform)
    (hjid : NoBareSlash client.jid) :
    Matches clientTables ApplicationsMirrored r (.ok client, apps.storeClient client)
      (carryOut (planStoreClient client) r) := by
  refine matches_written live rfl (within_insertClient client) clientTables_subset ?_
  have stored := h.stored_kept (within_insertClient client)
  have clients := h.clients.write hjid client.platform
  have exact := h.exact.storeClient h.clients.cut client.jid client.platform
  rw [made]
  exact ⟨exact, clients, made ▸ stored⟩

theorem matches_removeClient (live : r.Live) (h : ApplicationsMirrored apps r.contents)
    {jid : String} (hjid : NoBareSlash jid) :
    Matches clientTables ApplicationsMirrored r (Memory.Applications.removeClient jid apps)
      (carryOut (planRemoveClient jid) r) := by
  obtain ⟨keyspace, ready⟩ := live.ready
  have plan := planRemoveClient_eq ready live.reads h.clients hjid
  rw [Memory.Applications.removeClient_eq h.clients.cut.made]
  cases known : apps.clients[jid]? with
  | none =>
      rw [known] at plan
      exact matches_refused live h plan
  | some client =>
      have within := within_dropClient r.contents jid
      have cell := h.clients.cells jid hjid
      rw [known] at plan cell
      refine matches_written live plan within clientTables_subset ⟨?_, ?_, h.stored_kept within⟩
      · exact h.exact.dropClient h.clients.cut hjid
      · rw [applyAll_dropClient cell]
        exact h.clients.remove hjid

/-! ## Commands on applications and addresses -/

theorem matches_storeApplication (live : r.Live) (h : ApplicationsMirrored apps r.contents)
    (app : Application) :
    Matches applicationTables ApplicationsMirrored r (Memory.Applications.store app apps)
      (carryOut (planStoreApplication app) r) := by
  obtain ⟨keyspace, ready⟩ := live.ready
  have plan := planStoreApplication_eq ready live.reads h.stored app
  rw [Memory.Applications.store, Std.ExtTreeMap.contains_eq_isSome_getElem?]
  cases known : apps.applications[app.bareJid]? with
  | some previous =>
      rw [known] at plan
      exact matches_refused live h plan
  | none =>
      have within := (within_insertApplication app).mono
        (show [Layout.applications] ⊆ applicationTables by decide)
      rw [known] at plan
      exact matches_written live plan within applicationTables_subset
        ⟨h.exact.create app, h.clients_kept within, h.stored.create known⟩

theorem matches_removeApplication (live : r.Live) (h : ApplicationsMirrored apps r.contents)
    (jid : String) :
    Matches applicationTables ApplicationsMirrored r (Memory.Applications.remove jid apps)
      (carryOut (planRemoveApplication jid) r) := by
  obtain ⟨keyspace, ready⟩ := live.ready
  have plan := planRemoveApplication_eq ready live.reads h.stored jid
  rw [Memory.Applications.remove]
  cases known : apps.applications[jid]? with
  | none =>
      rw [known] at plan
      exact matches_refused live h plan
  | some app =>
      have within := within_dropApplication jid (r.addressesOf jid)
      have listed := mem_addressesOf ready live.reads h.stored jid
      rw [known] at plan
      exact matches_written live plan within applicationTables_subset
        ⟨h.exact.drop jid, h.clients_kept within,
          h.stored.remove listed (Memory.Applications.boundTo_drop h.exact.addresses jid)⟩

theorem ApplicationsMirrored.bindAll (h : ApplicationsMirrored apps contents) {jid : String}
    (known : (apps.applications[jid]?).isSome) (addresses : List String) :
    ApplicationsMirrored (addresses.foldl (Memory.Applications.bind jid) apps)
      (contents.applyAll
        ((Std.ExtTreeSet.ofList addresses).toList.map (rebind contents jid)).flatten) := by
  have same := Memory.Applications.sameRecords_bindAll apps addresses jid
  have within := (within_rebindAll contents jid (Std.ExtTreeSet.ofList addresses).toList).mono
    (show [Layout.addresses] ⊆ applicationTables by decide)
  constructor
  · exact h.exact.bindAll addresses jid
  · rw [same.clients]
    exact h.clients_kept within
  · rw [same.applications, Memory.Applications.owners_bindAll]
    exact h.stored.bindAll known addresses

theorem matches_storeAddresses (live : r.Live) (h : ApplicationsMirrored apps r.contents)
    (addresses : List String) (jid : String) :
    Matches applicationTables ApplicationsMirrored r
      (Memory.Applications.storeAddresses addresses jid apps)
      (carryOut (planStoreAddresses addresses jid) r) := by
  obtain ⟨keyspace, ready⟩ := live.ready
  have plan := planStoreAddresses_eq ready live.reads h.stored addresses jid
  rw [Memory.Applications.storeAddresses, Std.ExtTreeMap.contains_eq_isSome_getElem?]
  cases known : apps.applications[jid]? with
  | none =>
      rw [known] at plan
      exact matches_refused live h plan
  | some app =>
      have within := (within_rebindAll r.contents jid
        (Std.ExtTreeSet.ofList addresses).toList).mono
          (show [Layout.addresses] ⊆ applicationTables by decide)
      have bound := h.bindAll (by rw [known]; rfl) addresses
      rw [known] at plan
      exact matches_written live plan within applicationTables_subset bound

theorem ApplicationsMirrored.unbind (h : ApplicationsMirrored apps contents) (address : String) :
    ApplicationsMirrored (apps.unbind address)
      (contents.applyAll [.deleteRow Layout.addresses address]) := by
  have same := Memory.Applications.sameRecords_unbind apps address
  constructor
  · exact h.exact.unbind address
  · rw [same.clients]
    exact h.clients_kept (within_unbindAddress address)
  · rw [same.applications, Memory.Applications.owners_unbind]
    exact h.stored.unbind address

theorem matches_removeAddress (live : r.Live) (h : ApplicationsMirrored apps r.contents)
    (address : String) :
    Matches applicationTables ApplicationsMirrored r (.ok (), apps.unbind address)
      (carryOut (planRemoveAddress address) r) := by
  obtain ⟨keyspace, ready⟩ := live.ready
  have plan := planRemoveAddress_eq ready live.reads h.stored address
  cases known : apps.owners[address]? with
  | none =>
      have kept : apps.unbind address = apps := by simp [Memory.Applications.unbind, known]
      rw [known] at plan
      rw [kept]
      exact matches_kept live h plan
  | some jid =>
      rw [known] at plan
      exact matches_written live plan (within_unbindAddress address) applicationTables_subset
        (h.unbind address)

/-! ## Look-ups -/

theorem getClient?_mirrored (live : r.Live) (h : ApplicationsMirrored apps r.contents)
    {jid : String} (hjid : NoBareSlash jid) :
    Directory.getClient? jid r = apps.clients[jid]? := by
  obtain ⟨keyspace, ready⟩ := live.ready
  have hclient := client?_eq h.clients hjid
  rw [← ready.columns_eq (by decide) live.reads] at hclient
  exact hclient

theorem clientResources_mirrored (live : r.Live) (h : ApplicationsMirrored apps r.contents)
    (jid : String) :
    (apps.resources.values (bare jid)).Perm (Directory.clientResources jid r) :=
  values_perm_columnNames live (by decide) h.exact.resources (h.clients.owned (bare jid))

theorem clients_mirrored (live : r.Live) (h : ApplicationsMirrored apps r.contents) :
    apps.resources.keys = Directory.clients r := by
  refine keys_eq_rowKeys live (by decide) fun row => ?_
  rw [Cells.ne_empty_iff, ← Std.ExtTreeMap.mem_keys, h.exact.resources.mem_keys]
  exact exists_congr fun name => h.clients.owned row name

theorem application?_mirrored (live : r.Live) (h : ApplicationsMirrored apps r.contents)
    (jid : String) : r.application? jid = apps.applications[jid]? := by
  obtain ⟨keyspace, ready⟩ := live.ready
  exact application?_eq ready live.reads h.stored jid

theorem applicationForAddress?_mirrored (live : r.Live)
    (h : ApplicationsMirrored apps r.contents) (address : String) :
    Directory.applicationForAddress? address r = apps.forAddress? address := by
  obtain ⟨keyspace, ready⟩ := live.ready
  rw [applicationForAddress?_eq ready live.reads h.stored, Memory.Applications.forAddress?]
  rfl

theorem addressesForApplication_mirrored (live : r.Live)
    (h : ApplicationsMirrored apps r.contents) (jid : String) :
    (apps.addresses.values jid).Perm (Directory.addressesForApplication jid r) := by
  obtain ⟨keyspace, ready⟩ := live.ready
  have sorted : (r.addressesOf jid).Pairwise (· < ·) :=
    ready.rowKeys_sorted (by decide) live.reads _
  have nodup : (r.addressesOf jid).Nodup := sorted.imp ne_of_lt
  refine (List.perm_ext_iff_of_nodup (h.exact.addresses.nodup jid) nodup).2 fun address => ?_
  rw [h.exact.addresses.mem_iff, mem_addressesOf ready live.reads h.stored]

end Switchboard.Mirror
