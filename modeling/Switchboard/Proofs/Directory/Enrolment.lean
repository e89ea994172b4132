import Switchboard.Proofs.Directory.Clients

/-! # Enrolled clients of either directory

A directory of either kind holds a map of clients when clients are stored as they are cut from
JIDs that do not end with their first slash. A client is then removed under any text that is cut
into its parts, on a cluster, or under its own JID, in memory; either way the one that goes has the
bare JID and the resource of the one that is answered. What is listed is what the clients have.
-/

namespace Switchboard

open Switchboard.Columns Switchboard.Maps Switchboard.Records
open Replicated (Consistent ClientsStored Event)
open RawJid (NoBareSlash bare resource)

/-! ## The records -/

namespace Records

variable {clients : ClientMap}

def without (clients : ClientMap) (gone : Client) : ClientMap :=
  clients.filter fun _ client =>
    ¬ (client.bareJid = gone.bareJid ∧ client.resource = gone.resource)

/-- At most one client has both parts. -/
theorem Cut.without_eq_erase (cut : Cut clients) {jid : String} (whole : NoBareSlash jid)
    {gone : Client} (hbare : gone.bareJid = bare jid) (hresource : gone.resource = resource jid) :
    without clients gone = clients.erase jid := by
  apply Std.ExtTreeMap.ext_getElem?
  intro k
  apply Option.ext
  intro client
  rw [without, Std.ExtTreeMap.getElem?_filter', Option.filter_eq_some_iff, Maps.getElem?_erase,
    hbare, hresource]
  by_cases own : jid = k
  · subst own
    rw [if_pos rfl]
    constructor
    · rintro ⟨known, other⟩
      rw [(cut jid client known).2] at other
      simp [Client.ofJid] at other
    · intro none
      cases none
  · rw [if_neg own]
    refine ⟨And.left, fun known => ⟨known, ?_⟩⟩
    obtain ⟨ends, hclient⟩ := cut k client known
    have other : ¬ (bare k = bare jid ∧ resource k = resource jid) := by
      rintro ⟨sameBare, sameResource⟩
      exact own (RawJid.eq_of_parts_eq whole ends sameBare.symm sameResource.symm)
    rw [hclient, Client.ofJid]
    exact decide_eq_true other

theorem Cut.bareJid_eq (cut : Cut clients) {jid : String} {client : Client}
    (known : clients[jid]? = some client) : client.bareJid = bare jid := by
  rw [(cut jid client known).2, Client.ofJid]

def under (clients : ClientMap) (row : String) : List String :=
  clients.keys.filter (bare · = row)

theorem nodup_under (clients : ClientMap) (row : String) : (under clients row).Nodup :=
  Std.ExtTreeMap.nodup_keys.filter _

theorem Cut.mem_under_iff (cut : Cut clients) (row jid : String) :
    jid ∈ under clients row ↔ At clients jid fun client => client.bareJid = row := by
  rw [under, List.mem_filter, Std.ExtTreeMap.mem_keys, Std.ExtTreeMap.mem_iff_isSome_getElem?,
    Option.isSome_iff_exists, decide_eq_true_eq, At]
  constructor
  · rintro ⟨⟨client, known⟩, rfl⟩
    exact ⟨client, known, cut.bareJid_eq known⟩
  · rintro ⟨client, known, rfl⟩
    exact ⟨⟨client, known⟩, (cut.bareJid_eq known).symm⟩

theorem Cut.of_mem_under (cut : Cut clients) {row jid : String} (hin : jid ∈ under clients row) :
    NoBareSlash jid ∧ bare jid = row := by
  obtain ⟨client, known, rfl⟩ := (cut.mem_under_iff row jid).1 hin
  exact ⟨(cut jid client known).1, (cut.bareJid_eq known).symm⟩

/-- A resource is one of those of the JIDs under its bare JID. -/
theorem Cut.hasResource_iff (cut : Cut clients) (row name : String) :
    HasResource clients row name ↔ name ∈ (under clients row).map resource := by
  rw [List.mem_map]
  refine exists_congr fun jid => ?_
  rw [cut.mem_under_iff]
  have cutOff {client : Client} (known : clients[jid]? = some client) :
      client.resource = resource jid := by rw [(cut jid client known).2, Client.ofJid]
  constructor
  · rintro ⟨client, known, hrow, rfl⟩
    exact ⟨⟨client, known, hrow⟩, (cutOff known).symm⟩
  · rintro ⟨⟨client, known, hrow⟩, rfl⟩
    exact ⟨client, known, hrow, cutOff known⟩

theorem Cut.nodup_resources (cut : Cut clients) (row : String) :
    ((under clients row).map resource).Nodup := by
  refine (nodup_under clients row).map_on fun jid hin jid' hin' same => ?_
  obtain ⟨ends, hrow⟩ := cut.of_mem_under hin
  obtain ⟨ends', hrow'⟩ := cut.of_mem_under hin'
  exact RawJid.eq_of_parts_eq ends ends' (hrow.trans hrow'.symm) same

end Records

/-! ## Either kind of directory -/

def Operation.LeavesClients : Operation → Prop
  | storeClient _ | removeClient _ => False
  | _ => True

namespace Replicated

variable {r : Replicated} {keyspace : Keyspace} {clients : ClientMap}

theorem clients_not_mem_tablesOf {op : Operation} (leaves : op.LeavesClients) :
    Layout.clients ∉ tablesOf op := by
  cases op with
  | storeClient | removeClient => exact leaves.elim
  | storeNode | updateNode | removeNode => exact (by decide : Layout.clients ∉ nodeTables)
  | storeCall | removeCall => exact (by decide : Layout.clients ∉ callTables)
  | _ => exact (by decide : Layout.clients ∉ applicationTables)

/-- An operation that neither stores nor removes a client leaves the client table alone. -/
theorem clients_run (ready : r.Ready keyspace) (consistent : Consistent r.contents)
    {op : Operation} (leaves : op.LeavesClients) :
    (op.run r).2.contents Layout.clients = r.contents Layout.clients := by
  obtain ⟨-, -, hcontents⟩ := follows_run ready op fun batch planned =>
    (consistent.within ready planned).mono (tablesOf_subset op)
  rcases hcontents with unchanged | ⟨batch, planned, written⟩
  · rw [unchanged]
  · rw [written]
    exact (consistent.within ready planned).applyAll_eq _ (clients_not_mem_tablesOf leaves)

end Replicated

namespace Backend

/-- The directory is in order and holds these clients, with exactly their resources listed. -/
def Enrols (clients : ClientMap) : Backend → Prop
  | memory m =>
    m.applications.clients = clients ∧ Cut clients ∧ m.applications.ClientsFiled
  | replicated r => (replicated r).InOrder ∧ ClientsStored clients r.contents

variable {b : Backend} {clients : ClientMap} {jid platform : String} {client : Client}

theorem Enrols.cut (enrols : b.Enrols clients) : Cut clients := by
  cases b with
  | memory m => exact enrols.2.1
  | replicated r => exact enrols.2.cut

theorem Enrols.inOrder (enrols : b.Enrols clients) : b.InOrder := by
  cases b with
  | memory m => trivial
  | replicated r => exact enrols.1

theorem Fresh.enrols (fresh : b.Fresh) (unfailing : b.Unfailing) : b.Enrols ∅ := by
  have inOrder := fresh.inOrder unfailing
  cases fresh with
  | memory => exact ⟨rfl, cut_empty, Memory.Applications.exact_empty.resources⟩
  | replicated empty opened =>
      obtain ⟨-, blank, -⟩ := Replicated.ready_of_openOn empty opened
      exact ⟨inOrder, Replicated.clientsStored_empty fun key => blank _ key⟩

theorem Enrols.noteLookup (enrols : b.Enrols clients) :
    (Directory.noteLookup b).Enrols clients := by
  cases b with
  | memory m => exact enrols
  | replicated r =>
      have same := Replicated.contents_noteRead r
      exact ⟨InOrder.noteLookup enrols.1, same.symm ▸ enrols.2⟩

theorem Enrols.advance (enrols : b.Enrols clients) (span : Duration) :
    (b.after (.advance span)).Enrols clients := by
  cases b with
  | memory m => exact enrols
  | replicated r =>
      have quiet : Event.Quiet (.advance span) := trivial
      exact ⟨InOrder.after enrols.1 quiet, enrols.2⟩

/-! ### Look-ups -/

/-- A client is found under its JID. -/
theorem Enrols.getClient?_of_some (enrols : b.Enrols clients)
    (known : clients[jid]? = some client) :
    Directory.getClient? jid b = some client := by
  cases b with
  | memory m =>
      obtain ⟨rfl, -⟩ := enrols
      exact known
  | replicated r =>
      obtain ⟨⟨⟨⟨keyspace, ready⟩, reads, -⟩, -⟩, stored⟩ := enrols
      obtain ⟨ends, hclient⟩ := stored.cut jid client known
      refine (Replicated.getClient?_eq ready reads jid).trans ?_
      rw [stored.cells jid ends, known, Option.map_some, Option.map_some, ← hclient]

/-- What is listed under a bare JID are the resources of its clients. -/
theorem Enrols.clientResources_perm (enrols : b.Enrols clients) (jid : String) :
    (Directory.clientResources jid b).Perm ((under clients (bare jid)).map resource) := by
  have listed : (Directory.clientResources jid b).Nodup ∧
      ∀ name, name ∈ Directory.clientResources jid b ↔ HasResource clients (bare jid) name := by
    cases b with
    | memory m =>
        obtain ⟨rfl, -, filed⟩ := enrols
        exact ⟨filed.nodup (bare jid), filed.mem_iff (bare jid)⟩
    | replicated r =>
        obtain ⟨⟨⟨⟨keyspace, ready⟩, reads, -⟩, -⟩, stored⟩ := enrols
        have present : Replicated.Layout.clients ∈ Replicated.tableNames := by decide
        refine ⟨ready.nodup_columnNames present reads (bare jid), fun name => ?_⟩
        exact (ready.mem_columnNames present reads _ _).trans (stored.owned (bare jid) name)
  refine (List.perm_ext_iff_of_nodup listed.1 (enrols.cut.nodup_resources _)).2 fun name => ?_
  rw [listed.2, enrols.cut.hasResource_iff]

/-! ### Operations -/

/-- A client that is cut from a JID is stored in place of the one with its JID. -/
theorem Enrols.storeClient (enrols : b.Enrols clients) (ends : NoBareSlash jid)
    (platform : String) :
    (Directory.storeClient (.ofJid jid platform) b).2.Enrols
      (clients.insert jid (.ofJid jid platform)) := by
  cases b with
  | memory m =>
      obtain ⟨rfl, cut, filed⟩ := enrols
      exact ⟨rfl, cut.insert ends platform,
        Memory.Applications.clientsFiled_storeClient filed cut.made jid platform⟩
  | replicated r =>
      obtain ⟨inOrder, stored⟩ := enrols
      have planned := Replicated.planStoreClient_eq (.ofJid jid platform) r
      have named := (Replicated.within_insertClient (.ofJid jid platform)).mono
        Replicated.clientTables_subset
      obtain ⟨r', hrun, -, hcontents⟩ := inOrder.1.carryOut_of_write planned named
      have inOrder' : (Directory.storeClient (.ofJid jid platform) (replicated r)).2.InOrder :=
        inOrder.run (.storeClient (.ofJid jid platform))
      rw [storeClient_replicated, hrun] at inOrder' ⊢
      refine ⟨inOrder', ?_⟩
      rw [hcontents]
      exact stored.write ends platform

/-- The client that goes has the bare JID and the resource of the one that is answered. -/
theorem Enrols.removeClient (enrols : b.Enrols clients) (jid : String) :
    let (result, b') := Directory.removeClient jid b
    match result with
    | .ok client => b'.Enrols (without clients client)
    | .error _ => b'.Enrols clients := by
  cases b with
  | memory m =>
      obtain ⟨rfl, cut, filed⟩ := enrols
      rw [removeClient_memory, Memory.Applications.removeClient_eq cut.made]
      cases known : m.applications.clients[jid]? with
      | none => exact ⟨rfl, cut, filed⟩
      | some client =>
          obtain ⟨ends, hclient⟩ := cut jid client known
          have gone := cut.without_eq_erase ends (congrArg Client.bareJid hclient)
            (congrArg Client.resource hclient)
          dsimp only
          rw [gone]
          exact ⟨rfl, cut.erase jid,
            Memory.Applications.clientsFiled_dropClient filed cut.made (cut.not_doubled ends)⟩
  | replicated r =>
      obtain ⟨inOrder, stored⟩ := enrols
      obtain ⟨⟨⟨keyspace, ready⟩, reads, -⟩, -⟩ := id inOrder
      rw [removeClient_replicated]
      cases known : Directory.getClient? jid r with
      | none =>
          have planned := Replicated.planRemoveClient_of_none ready reads known
          rw [Replicated.carryOut_of_error planned]
          exact Enrols.noteLookup (b := replicated r) ⟨inOrder, stored⟩
      | some client =>
          have planned := Replicated.planRemoveClient_of_some ready reads known
          have named := (Replicated.within_dropClient r.contents jid).mono
            Replicated.clientTables_subset
          obtain ⟨r', hrun, -, hcontents⟩ := inOrder.1.carryOut_of_write planned named
          have inOrder' : (Directory.removeClient jid (replicated r)).2.InOrder :=
            inOrder.run (.removeClient jid)
          rw [removeClient_replicated, hrun] at inOrder'
          rw [hrun]
          obtain ⟨whole, ends, hbare, hresource⟩ := RawJid.exists_noBareSlash jid
          rw [Replicated.getClient?_eq ready reads, Option.map_eq_some_iff] at known
          obtain ⟨platform, -, rfl⟩ := known
          have gone : without clients (.ofJid jid platform) = clients.erase whole :=
            stored.cut.without_eq_erase ends hbare.symm hresource.symm
          refine ⟨inOrder', ?_⟩
          rw [gone, hcontents, Replicated.applyAll_removeClient ready ⟨_, _, planned⟩, ← hbare,
            ← hresource]
          exact stored.remove ends

theorem Enrols.run (enrols : b.Enrols clients) {op : Operation} (leaves : op.LeavesClients) :
    (op.run b).2.Enrols clients := by
  cases b with
  | memory m =>
      obtain ⟨rfl, cut, filed⟩ := enrols
      rw [run_memory]
      cases m.clientChange_run op with
      | kept same resources =>
          refine ⟨same, cut, ?_⟩
          rw [Memory.Applications.ClientsFiled, same, resources]
          exact filed
      | stored | removed => exact leaves.elim
  | replicated r =>
      obtain ⟨inOrder, stored⟩ := enrols
      obtain ⟨⟨⟨keyspace, ready⟩, -⟩, consistent⟩ := id inOrder
      have inOrder' := inOrder.run op
      rw [run_replicated] at inOrder' ⊢
      exact ⟨inOrder', stored.of_contents_eq (Replicated.clients_run ready consistent leaves)⟩

end Backend

end Switchboard
