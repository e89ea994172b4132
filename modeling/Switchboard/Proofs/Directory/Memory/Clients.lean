import Mathlib.Data.List.Induction
import Switchboard.Directory.Memory.Basic
import Switchboard.Directory.Operation
import Switchboard.Proofs.Directory.Memory.Applications

/-! # The listing of clients in memory

Clients stand under their full JID, and the listing files the resource of each under its bare
part. A JID with a slash behind its bare part is cut like the bare part alone, so two clients
can share an entry of the listing, and the first of the two that is removed takes it away.
Nothing else can make the listing differ from the clients.
-/

namespace Switchboard.Memory

open Switchboard.Maps Switchboard.Records
open RawJid (NoBareSlash bare resource)

/-! ## What an operation does to the clients -/

inductive ClientChange (apps : Applications) : Operation → Applications → Prop
  | kept {op : Operation} {apps' : Applications} :
      apps'.clients = apps.clients → apps'.resources = apps.resources → ClientChange apps op apps'
  | stored (client : Client) : ClientChange apps (.storeClient client) (apps.storeClient client)
  | removed (jid : String) :
      ClientChange apps (.removeClient jid) (Applications.removeClient jid apps).2

theorem clientChange_run (m : Memory) (op : Operation) :
    ClientChange m.applications op (op.run m).2.applications := by
  have bound (op : Operation) (addresses : List String) (jid : String) :
      ClientChange m.applications op (Directory.storeAddresses addresses jid m).2.applications := by
    change ClientChange _ op (Applications.storeAddresses addresses jid m.applications).2
    unfold Applications.storeAddresses
    split
    · have same := Applications.sameRecords_bindAll m.applications addresses jid
      exact .kept same.clients same.resources
    · exact .kept rfl rfl
  cases op with
  | storeClient client => exact .stored client
  | removeClient jid => exact .removed jid
  | storeCall call =>
      simp only [Operation.run, Operation.answer, Directory.storeCall]
      split <;> exact .kept rfl rfl
  | storeApplication app =>
      change ClientChange _ _ (Applications.store app m.applications).2
      unfold Applications.store
      split <;> exact .kept rfl rfl
  | removeApplication jid =>
      change ClientChange _ _ (Applications.remove jid m.applications).2
      unfold Applications.remove
      split <;> exact .kept rfl rfl
  | storeAddress address jid => exact bound _ [address] jid
  | storeAddresses addresses jid => exact bound _ addresses jid
  | removeAddress address =>
      have same := Applications.sameRecords_unbind m.applications address
      exact .kept same.clients same.resources
  | _ => exact .kept rfl rfl

def MakesClients : Operation → Prop
  | .storeClient client => client = Client.ofJid client.jid client.platform
  | _ => True

namespace Applications

/-- Nothing is listed that no client has. -/
def NoneTooMany (apps : Applications) : Prop :=
  ∃ listed, apps.resources.Files listed ∧
    ∀ row name, listed row name → HasResource apps.clients row name

variable {apps apps' : Applications} {op : Operation}

theorem made_change (made : Made apps.clients) (makes : MakesClients op)
    (change : ClientChange apps op apps') : Made apps'.clients := by
  cases change with
  | kept clients resources =>
      rw [clients]
      exact made
  | stored client =>
      rw [show client = _ from makes]
      exact made.insert client.jid client.platform
  | removed jid =>
      rw [removeClient_eq made]
      cases apps.clients[jid]? with
      | none => exact made
      | some client => exact made.erase jid

theorem noneTooMany_change (few : apps.NoneTooMany) (made : Made apps.clients)
    (makes : MakesClients op) (change : ClientChange apps op apps') : apps'.NoneTooMany := by
  obtain ⟨listed, files, owned⟩ := few
  cases change with
  | kept clients resources =>
      refine ⟨listed, resources ▸ files, ?_⟩
      rw [clients]
      exact owned
  | stored client =>
      rw [show client = _ from makes]
      refine ⟨_, files.attach _ _, fun row name h => ?_⟩
      rw [Applications.storeClient]
      refine (made.hasResource_insert_iff client.jid client.platform row name).2 ?_
      exact h.imp_right (owned row name)
  | removed jid =>
      rw [removeClient_eq made]
      cases apps.clients[jid]? with
      | none => exact ⟨listed, files, owned⟩
      | some client =>
          refine ⟨_, files.detach (bare jid) (resource jid), fun row name h => ?_⟩
          exact made.hasResource_erase h.1 (owned row name h.2)

/-- The listing stays exact when no client goes that shares its entry with another. -/
theorem clientsFiled_change (filed : apps.ClientsFiled) (made : Made apps.clients)
    (makes : MakesClients op) (change : ClientChange apps op apps')
    (alone : ∀ jid client, op = .removeClient jid → apps.clients[jid]? = some client →
      ¬ Doubled apps.clients jid) : apps'.ClientsFiled := by
  cases change with
  | kept clients resources =>
      rw [ClientsFiled, clients, resources]
      exact filed
  | stored client =>
      rw [show client = _ from makes]
      exact clientsFiled_storeClient filed made client.jid client.platform
  | removed jid =>
      rw [removeClient_eq made]
      cases known : apps.clients[jid]? with
      | none => exact filed
      | some client => exact clientsFiled_dropClient filed made (alone jid client rfl known)

/-- A client is there because it was there or has just been stored. -/
theorem stored_change (change : ClientChange apps op apps') {jid : String} {client : Client}
    (known : apps'.clients[jid]? = some client) :
    apps.clients[jid]? = some client ∨ (op = .storeClient client ∧ client.jid = jid) := by
  cases change with
  | kept clients resources => exact .inl (clients ▸ known)
  | stored new =>
      rw [Applications.storeClient, Maps.getElem?_insert] at known
      split at known
      · next own =>
          obtain rfl := Option.some.inj known
          exact .inr ⟨rfl, own⟩
      · exact .inl known
  | removed gone =>
      unfold Applications.removeClient at known
      split at known
      · exact .inl known
      · rw [Maps.getElem?_erase] at known
        split at known
        · cases known
        · exact .inl known

end Applications

/-! ## What the listing shows -/

def Stored (m : Memory) (client : Client) : Prop :=
  Directory.getClient? client.jid m = some client

/-- What is listed belongs to stored clients, each resource is listed once, and the bare JIDs come
in order. -/
structure ClientsShown (m : Memory) : Prop where
  resource : ∀ jid, ∀ name ∈ Directory.clientResources jid m,
    ∃ client, m.Stored client ∧ client.bareJid = bare jid ∧ client.resource = name
  client : ∀ row ∈ Directory.clients m, ∃ client, m.Stored client ∧ client.bareJid = row
  once : ∀ jid, (Directory.clientResources jid m).Nodup
  sorted : (Directory.clients m).Pairwise (· < ·)

structure ClientsFound (m : Memory) : Prop where
  resource : ∀ client, m.Stored client →
    client.resource ∈ Directory.clientResources client.bareJid m
  client : ∀ client, m.Stored client → client.bareJid ∈ Directory.clients m

/-- Another stored client has the bare JID and the resource of this one. -/
def Twinned (m : Memory) (jid : String) : Prop :=
  ∃ client twin, Directory.getClient? jid m = some client ∧ m.Stored twin ∧ twin.jid ≠ jid ∧
    twin.bareJid = client.bareJid ∧ twin.resource = client.resource

section Shown

variable {m : Memory}

theorem stored_of_hasResource (made : Made m.applications.clients) {row name : String}
    (held : HasResource m.applications.clients row name) :
    ∃ client, m.Stored client ∧ client.bareJid = row ∧ client.resource = name := by
  obtain ⟨jid, client, known, hparts⟩ := held
  have hjid : client.jid = jid := by rw [made jid client known, Client.ofJid]
  exact ⟨client, by rw [Stored, hjid]; exact known, hparts⟩

theorem clientsShown (made : Made m.applications.clients) (few : m.applications.NoneTooMany) :
    m.ClientsShown := by
  obtain ⟨listed, files, owned⟩ := few
  constructor
  · intro jid name listed
    exact stored_of_hasResource made (owned _ _ ((files.mem_iff _ _).1 listed))
  · intro row listed
    obtain ⟨name, held⟩ := (files.mem_keys row).1 listed
    obtain ⟨client, stored, hrow, -⟩ := stored_of_hasResource made (owned _ _ held)
    exact ⟨client, stored, hrow⟩
  · exact fun jid => files.nodup (bare jid)
  · exact keys_sorted m.applications.resources

theorem clientsFound (made : Made m.applications.clients) (filed : m.applications.ClientsFiled) :
    m.ClientsFound := by
  have held {client : Client} (stored : m.Stored client) :
      HasResource m.applications.clients client.bareJid client.resource :=
    ⟨client.jid, client, stored, rfl, rfl⟩
  constructor
  · intro client stored
    have hbare : bare client.bareJid = client.bareJid := by
      rw [made client.jid client stored, Client.ofJid, RawJid.bare_bare]
    refine (filed.mem_iff _ _).2 ?_
    rw [hbare]
    exact held stored
  · intro client stored
    exact (filed.mem_keys client.bareJid).2 ⟨client.resource, held stored⟩

theorem not_doubled_of_not_twinned (made : Made m.applications.clients) {jid : String}
    {client : Client} (known : m.applications.clients[jid]? = some client)
    (alone : ¬ m.Twinned jid) : ¬ Doubled m.applications.clients jid := by
  rintro ⟨other, hne, twin, hother, hbare, hresource⟩
  have hclient := made jid client known
  have htwin : twin.jid = other := by rw [made other twin hother, Client.ofJid]
  refine alone ⟨client, twin, known, by rw [Stored, htwin]; exact hother, htwin ▸ hne, ?_, ?_⟩
  · rw [hbare, hclient, Client.ofJid]
  · rw [hresource, hclient, Client.ofJid]

/-- A client that goes takes the entry of its twin with it. -/
theorem not_clientsFound_of_twinned (made : Made m.applications.clients) {jid : String}
    (twinned : m.Twinned jid) : ¬ ((Operation.removeClient jid).run m).2.ClientsFound := by
  obtain ⟨client, twin, known, stored, hne, hbare, hresource⟩ := twinned
  have hrun : ((Operation.removeClient jid).run m).2.applications =
      m.applications.dropClient jid := by
    change (Applications.removeClient jid m.applications).2 = _
    have hclient : m.applications.clients[jid]? = some client := known
    rw [Applications.removeClient_eq made, hclient]
  intro found
  have htwin : ((Operation.removeClient jid).run m).2.Stored twin := by
    change ((Operation.removeClient jid).run m).2.applications.clients[twin.jid]? = some twin
    rw [hrun, Applications.dropClient, Maps.getElem?_erase, if_neg (Ne.symm hne)]
    exact stored
  have listed := found.resource twin htwin
  change twin.resource ∈
    ((Operation.removeClient jid).run m).2.applications.resources.values (bare twin.bareJid)
    at listed
  have hclient := made jid client known
  rw [hrun, Applications.dropClient, hbare, hresource, hclient, Client.ofJid, RawJid.bare_bare,
    Listing.values_detach, if_pos rfl] at listed
  simp at listed

end Shown

/-! ## Histories -/

section Histories

theorem runAll_concat {m : Memory} (ops : List Operation) (op : Operation) :
    (Operation.runAll m (ops ++ [op])).2 = (op.run (Operation.runAll m ops).2).2 := by
  induction ops generalizing m with
  | nil => rfl
  | cons first rest ih => exact ih

variable {ops : List Operation}

/-- What every change of the clients keeps holds after a history. -/
theorem clients_runAll (holds : Applications → Prop) (start : holds {})
    (step : ∀ {apps apps' : Applications} {op : Operation}, op ∈ ops → holds apps →
      ClientChange apps op apps' → holds apps') :
    holds (Operation.runAll ({} : Memory) ops).2.applications := by
  have run (rest : List Operation) (m : Memory) (within : ∀ op ∈ rest, op ∈ ops)
      (h : holds m.applications) : holds (Operation.runAll m rest).2.applications := by
    induction rest generalizing m with
    | nil => exact h
    | cons op rest ih =>
        have first := step (within op List.mem_cons_self) h (clientChange_run m op)
        exact ih _ (fun later hlater => within later (List.mem_cons_of_mem op hlater)) first
  exact run ops {} (fun _ hop => hop) start

theorem made_runAll (makes : ∀ op ∈ ops, MakesClients op) :
    Made (Operation.runAll ({} : Memory) ops).2.applications.clients :=
  clients_runAll (fun apps => Made apps.clients) made_empty fun hop made change =>
    Applications.made_change made (makes _ hop) change

theorem noneTooMany_runAll (makes : ∀ op ∈ ops, MakesClients op) :
    (Operation.runAll ({} : Memory) ops).2.applications.NoneTooMany := by
  have kept := clients_runAll (fun apps => Made apps.clients ∧ apps.NoneTooMany)
    ⟨made_empty, _, Listing.files_empty, fun _ _ => False.elim⟩
    fun hop kept change => ⟨Applications.made_change kept.1 (makes _ hop) change,
      Applications.noneTooMany_change kept.2 kept.1 (makes _ hop) change⟩
  exact kept.2

/-- A stored client has been stored by the history. -/
theorem mem_of_stored {client : Client}
    (stored : (Operation.runAll ({} : Memory) ops).2.Stored client) :
    .storeClient client ∈ ops := by
  have known := clients_runAll
    (fun apps => ∀ jid client, apps.clients[jid]? = some client → .storeClient client ∈ ops)
    (fun jid client known => by simp at known)
    fun hop kept change jid client known =>
      (Applications.stored_change change known).elim (kept jid client) fun new => new.1 ▸ hop
  exact known client.jid client stored

/-- No removal has made the listing forget a client that stays. -/
theorem clientsFiled_runAll (makes : ∀ op ∈ ops, MakesClients op)
    (alone : ∀ front jid, front ++ [.removeClient jid] <+: ops →
      ¬ (Operation.runAll ({} : Memory) front).2.Twinned jid) :
    (Operation.runAll ({} : Memory) ops).2.applications.ClientsFiled := by
  induction ops using List.reverseRecOn with
  | nil => exact Applications.exact_empty.resources
  | append_singleton init op ih =>
      have hinit : ∀ other ∈ init, MakesClients other :=
        fun other hin => makes other (List.mem_append_left _ hin)
      have filed := ih hinit fun front jid within =>
        alone front jid (within.trans (List.prefix_append init [op]))
      have hop : MakesClients op := makes op (List.mem_append_right _ List.mem_cons_self)
      have change := clientChange_run (Operation.runAll ({} : Memory) init).2 op
      have made := made_runAll hinit
      rw [runAll_concat]
      refine Applications.clientsFiled_change filed made hop change fun jid client he known => ?_
      subst he
      exact not_doubled_of_not_twinned made known (alone init jid List.prefix_rfl)

/-- Clients whose JIDs end in no bare slash have no twins. -/
theorem not_twinned_of_noBareSlash (makes : ∀ op ∈ ops, MakesClients op)
    (clean : ∀ client, .storeClient client ∈ ops → NoBareSlash client.jid) (jid : String) :
    ¬ (Operation.runAll ({} : Memory) ops).2.Twinned jid := by
  rintro ⟨client, twin, known, stored, hne, hbare, hresource⟩
  have made := made_runAll makes
  have hclient := made jid client known
  have htwin := made twin.jid twin stored
  have hjid : client.jid = jid := by rw [hclient, Client.ofJid]
  have hstored : Stored _ client := hjid.symm ▸ known
  rw [hclient, htwin] at hbare hresource
  exact hne (RawJid.eq_of_parts_eq (clean twin (mem_of_stored stored))
    (hjid ▸ clean client (mem_of_stored hstored)) hbare hresource)

/-- The listing of clients is exact throughout a history when no client is removed whose twin stays,
and only then; without JIDs that end in a bare slash it is always exact. What it shows belongs to
stored clients in any case. -/
theorem client_listing_exact_iff (makes : ∀ op ∈ ops, MakesClients op) :
    (∀ front, front <+: ops → (Operation.runAll ({} : Memory) front).2.ClientsShown) ∧
      ((∀ front, front <+: ops → (Operation.runAll ({} : Memory) front).2.ClientsFound) ↔
        ∀ front jid, front ++ [.removeClient jid] <+: ops →
          ¬ (Operation.runAll ({} : Memory) front).2.Twinned jid) ∧
      ((∀ client, .storeClient client ∈ ops → NoBareSlash client.jid) →
        ∀ front, front <+: ops → (Operation.runAll ({} : Memory) front).2.ClientsFound) := by
  have within {front : List Operation} (h : front <+: ops) : ∀ op ∈ front, MakesClients op :=
    fun op hin => makes op (h.subset hin)
  have found (alone : ∀ front jid, front ++ [.removeClient jid] <+: ops →
      ¬ (Operation.runAll ({} : Memory) front).2.Twinned jid) {front : List Operation}
      (h : front <+: ops) : (Operation.runAll ({} : Memory) front).2.ClientsFound :=
    clientsFound (made_runAll (within h))
      (clientsFiled_runAll (within h) fun earlier jid hearlier =>
        alone earlier jid (hearlier.trans h))
  refine ⟨fun front h => ?_,
    ⟨fun all front jid h twinned => ?_, fun alone front h => found alone h⟩,
    fun clean front h => found (fun earlier jid hearlier => ?_) h⟩
  · exact clientsShown (made_runAll (within h)) (noneTooMany_runAll (within h))
  · have hfront : front <+: ops := (List.prefix_append front _).trans h
    have after := all _ h
    rw [runAll_concat] at after
    exact not_clientsFound_of_twinned (made_runAll (within hfront)) twinned after
  · have hfront : earlier <+: ops := (List.prefix_append earlier _).trans hearlier
    exact not_twinned_of_noBareSlash (within hfront)
      (fun client hin => clean client (hfront.subset hin)) jid

/-- Of a client and its twin with a bare slash the second is removed: the first is still stored, but
it is not listed any more. -/
theorem client_listing_not_exact_of_bare_slash :
    let ops : List Operation := [.storeClient (.ofJid "a@b" "staging"),
      .storeClient (.ofJid "a@b/" "staging"), .removeClient "a@b/"]
    (∀ op ∈ ops, MakesClients op) ∧
      ¬ (∀ front, front <+: ops → (Operation.runAll ({} : Memory) front).2.ClientsFound) ∧
      (Operation.runAll ({} : Memory) ops).2.Stored (.ofJid "a@b" "staging") ∧
      Directory.clients (Operation.runAll ({} : Memory) ops).2 = [] := by
  intro ops
  have makes : ∀ op ∈ ops, MakesClients op := by simp [ops, MakesClients, Client.ofJid]
  refine ⟨makes, fun exact => ?_, by unfold Stored; decide +kernel, by decide +kernel⟩
  have alone := (client_listing_exact_iff makes).2.1.1 exact
  refine alone (ops.take 2) "a@b/" List.prefix_rfl
    ⟨.ofJid "a@b/" "staging", .ofJid "a@b" "staging", ?_, ?_, ?_, ?_, ?_⟩
  · decide +kernel
  · unfold Stored
    decide +kernel
  · decide +kernel
  · decide +kernel
  · decide +kernel

end Histories

end Switchboard.Memory
