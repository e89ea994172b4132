import Switchboard.Directory.Memory.Applications
import Switchboard.Proofs.Directory.Memory.Listing
import Switchboard.Proofs.Directory.Records

/-! # Clients, addresses and their indices in memory

Both listings are exact: the resources of the clients are filed under their bare JID, and
the bound addresses under their application.
-/

namespace Switchboard.Memory.Applications

open Switchboard.Maps Switchboard.Records
open RawJid (NoBareSlash bare resource)

structure Exact (apps : Applications) : Prop where
  resources : apps.resources.Files (HasResource apps.clients)
  addresses : apps.addresses.Files (BoundTo apps.owners)

variable {apps : Applications}

theorem exact_empty : Exact {} where
  resources := Listing.files_empty.congr fun row name => by simp [HasResource, At]
  addresses := Listing.files_empty.congr fun jid address => by simp [BoundTo]

/-! ## Clients -/

abbrev ClientsFiled (apps : Applications) : Prop :=
  apps.resources.Files (HasResource apps.clients)

theorem clientsFiled_storeClient (filed : apps.ClientsFiled) (made : Made apps.clients)
    (jid platform : String) : (apps.storeClient (Client.ofJid jid platform)).ClientsFiled :=
  (filed.attach (bare jid) (resource jid)).congr fun row name =>
    (made.hasResource_insert_iff jid platform row name).symm

theorem Exact.storeClient (h : apps.Exact) (cut : Cut apps.clients) (jid platform : String) :
    (apps.storeClient (Client.ofJid jid platform)).Exact where
  resources := clientsFiled_storeClient h.resources cut.made jid platform
  addresses := h.addresses

def dropClient (apps : Applications) (jid : String) : Applications :=
  { apps with
    clients := apps.clients.erase jid
    resources := apps.resources.detach (bare jid) (resource jid) }

theorem removeClient_eq (made : Made apps.clients) (jid : String) :
    Applications.removeClient jid apps =
      match apps.clients[jid]? with
      | none => (.error (.notFound .client jid), apps)
      | some client => (.ok client, apps.dropClient jid) := by
  rw [Applications.removeClient]
  cases known : apps.clients[jid]? with
  | none => rfl
  | some client =>
      have hclient := made jid client known
      rw [hclient]
      rfl

theorem clientsFiled_dropClient (filed : apps.ClientsFiled) (made : Made apps.clients)
    {jid : String} (alone : ¬ Doubled apps.clients jid) : (apps.dropClient jid).ClientsFiled :=
  (filed.detach (bare jid) (resource jid)).congr fun row name =>
    (made.hasResource_erase_iff alone row name).symm

theorem Exact.dropClient (h : apps.Exact) (cut : Cut apps.clients) {jid : String}
    (hjid : NoBareSlash jid) : (apps.dropClient jid).Exact where
  resources := clientsFiled_dropClient h.resources cut.made (cut.not_doubled hjid)
  addresses := h.addresses

/-! ## Applications -/

theorem Exact.create (h : apps.Exact) (app : Application) :
    Exact { apps with applications := apps.applications.insert app.bareJid app } where
  resources := h.resources
  addresses := h.addresses

def drop (apps : Applications) (jid : String) : Applications :=
  { apps with
    applications := apps.applications.erase jid
    owners := (apps.addresses.values jid).foldl (·.erase ·) apps.owners
    addresses := apps.addresses.erase jid }

abbrev Filed (apps : Applications) : Prop :=
  apps.addresses.Files (BoundTo apps.owners)

theorem boundTo_drop (filed : apps.Filed) (jid app address : String) :
    BoundTo (apps.drop jid).owners app address ↔ app ≠ jid ∧ BoundTo apps.owners app address := by
  have hmem := filed.mem_iff jid address
  rw [Applications.drop, BoundTo, getElem?_eraseAll]
  by_cases hown : BoundTo apps.owners jid address
  · rw [if_pos (hmem.2 hown)]
    rw [BoundTo] at hown
    rw [BoundTo, hown]
    simp [eq_comm]
  · rw [if_neg (mt hmem.1 hown)]
    constructor
    · intro hbound
      exact ⟨fun he => hown (he ▸ hbound), hbound⟩
    · exact fun hbound => hbound.2

theorem filed_drop (filed : apps.Filed) (jid : String) : (apps.drop jid).Filed :=
  (filed.erase jid).congr fun app address => by rw [boundTo_drop filed, ne_comm]

theorem owners_drop (filed : apps.Filed) (jid : String) :
    (apps.drop jid).owners = unboundFrom apps.owners jid := by
  apply Std.ExtTreeMap.ext_getElem?
  intro address
  apply Option.ext
  intro app
  exact (boundTo_drop filed jid app address).trans (boundTo_unboundFrom _ jid app address).symm

theorem Exact.drop (h : apps.Exact) (jid : String) : (apps.drop jid).Exact where
  resources := h.resources
  addresses := filed_drop h.addresses jid

/-! ## Bound addresses -/

structure SameRecords (apps apps' : Applications) : Prop where
  clients : apps'.clients = apps.clients
  resources : apps'.resources = apps.resources
  applications : apps'.applications = apps.applications

theorem sameRecords_unbind (apps : Applications) (address : String) :
    apps.SameRecords (apps.unbind address) := by
  unfold Applications.unbind
  split
  · exact ⟨rfl, rfl, rfl⟩
  · exact ⟨rfl, rfl, rfl⟩

theorem sameRecords_bindAll (apps : Applications) (addresses : List String) (jid : String) :
    apps.SameRecords (addresses.foldl (bind jid) apps) := by
  induction addresses generalizing apps with
  | nil => exact ⟨rfl, rfl, rfl⟩
  | cons address rest ih =>
      have first := sameRecords_unbind apps address
      have others := ih (bind jid apps address)
      constructor
      · exact others.clients.trans first.clients
      · exact others.resources.trans first.resources
      · exact others.applications.trans first.applications

theorem owners_unbind (apps : Applications) (address : String) :
    (apps.unbind address).owners = apps.owners.erase address := by
  unfold Applications.unbind
  cases howner : apps.owners[address]? with
  | none => exact (erase_of_none howner).symm
  | some jid => rfl

theorem owners_bind (jid : String) (apps : Applications) (address : String) :
    (bind jid apps address).owners = apps.owners.insert address jid := by
  apply Std.ExtTreeMap.ext_getElem?
  intro other
  rw [bind, owners_unbind, Maps.getElem?_insert, Maps.getElem?_insert, Maps.getElem?_erase]
  by_cases he : address = other
  · rw [if_pos he, if_pos he]
  · rw [if_neg he, if_neg he, if_neg he]

theorem owners_bindAll (apps : Applications) (addresses : List String) (jid : String) :
    (addresses.foldl (bind jid) apps).owners = boundAll apps.owners addresses jid := by
  unfold boundAll
  induction addresses generalizing apps with
  | nil => rfl
  | cons address rest ih => rw [List.foldl_cons, List.foldl_cons, ih, owners_bind]

theorem filed_unbind (filed : apps.Filed) (address : String) : (apps.unbind address).Filed := by
  rw [Filed, owners_unbind, Applications.unbind]
  cases howner : apps.owners[address]? with
  | none =>
      rw [erase_of_none howner]
      exact filed
  | some owner =>
      refine (filed.detach owner address).congr fun jid other => ?_
      rw [BoundTo, BoundTo, Maps.getElem?_erase]
      by_cases he : address = other
      · subst he
        simp [howner]
      · simp [he]

theorem filed_bind (filed : apps.Filed) (jid address : String) : (bind jid apps address).Filed := by
  refine ((filed_unbind filed address).attach jid address).congr fun app other => ?_
  rw [owners_bind, owners_unbind, BoundTo, BoundTo, Maps.getElem?_insert, Maps.getElem?_erase]
  by_cases he : address = other
  · simp [he]
  · simp [he]

theorem filed_bindAll (filed : apps.Filed) (addresses : List String) (jid : String) :
    (addresses.foldl (bind jid) apps).Filed := by
  induction addresses generalizing apps with
  | nil => exact filed
  | cons address rest ih => exact ih (filed_bind filed jid address)

theorem Exact.unbind (h : apps.Exact) (address : String) : (apps.unbind address).Exact where
  resources := by
    have same := sameRecords_unbind apps address
    rw [same.resources, same.clients]
    exact h.resources
  addresses := filed_unbind h.addresses address

theorem Exact.bindAll (h : apps.Exact) (addresses : List String) (jid : String) :
    (addresses.foldl (Applications.bind jid) apps).Exact where
  resources := by
    have same := sameRecords_bindAll apps addresses jid
    rw [same.resources, same.clients]
    exact h.resources
  addresses := filed_bindAll h.addresses addresses jid

/-! ## Untouched applications -/

/-- An address that is not an application's own is unbound without a change of its list. -/
theorem values_unbind {jid address : String} (foreign : ¬ BoundTo apps.owners jid address) :
    (apps.unbind address).addresses.values jid = apps.addresses.values jid := by
  unfold Applications.unbind
  cases howner : apps.owners[address]? with
  | none => rfl
  | some owner =>
      have other : owner ≠ jid := fun he => foreign (he ▸ howner)
      change (apps.addresses.detach owner address).values jid = apps.addresses.values jid
      rw [Listing.values_detach, if_neg other]

theorem values_bindAll {jid app : String} (other : app ≠ jid) {addresses : List String}
    (foreign : ∀ address ∈ addresses, ¬ BoundTo apps.owners jid address) :
    (addresses.foldl (bind app) apps).addresses.values jid = apps.addresses.values jid := by
  induction addresses generalizing apps with
  | nil => rfl
  | cons address rest ih =>
      have first : (bind app apps address).addresses.values jid = apps.addresses.values jid := by
        rw [Applications.bind, Listing.values_attach, if_neg other,
          values_unbind (foreign address List.mem_cons_self)]
      rw [List.foldl_cons, ih, first]
      intro later hlater bound
      rw [BoundTo, owners_bind, Maps.getElem?_insert] at bound
      split at bound
      · exact other (Option.some.inj bound)
      · exact foreign later (List.mem_cons_of_mem address hlater) bound

end Switchboard.Memory.Applications
