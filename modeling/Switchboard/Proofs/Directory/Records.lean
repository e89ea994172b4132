import Switchboard.Directory.Record
import Switchboard.Proofs.Jid.Raw
import Switchboard.Proofs.Maps

/-! # What the records of a directory say

The relations that both kinds of directory keep indices of, read off the records alone:
who holds an IP address, who serves a platform, which calls belong to a client or a
node, which resources are bound and which addresses. Each comes with its change when a
record is written or taken away.
-/

namespace Switchboard.Records

open Switchboard.Maps
open RawJid (NoBareSlash bare resource)

abbrev NodeMap : Type := Std.ExtTreeMap String Node
abbrev CallMap : Type := Std.ExtTreeMap String Call
abbrev ClientMap : Type := Std.ExtTreeMap String Client
abbrev ApplicationMap : Type := Std.ExtTreeMap String Application
abbrev OwnerMap : Type := Std.ExtTreeMap String String

/-! ## Relations between records -/

def HoldsIp (nodes : NodeMap) (ip hostname : String) : Prop :=
  At nodes hostname fun node => node.ipAddress = ip

/-- A node of another hostname holds the IP address. -/
def IpTaken (nodes : NodeMap) (ip hostname : String) : Prop :=
  ∃ owner, owner ≠ hostname ∧ HoldsIp nodes ip owner

def IpsUnique (nodes : NodeMap) : Prop :=
  ∀ ip hostname hostname', HoldsIp nodes ip hostname → HoldsIp nodes ip hostname' →
    hostname = hostname'

def Serves (nodes : NodeMap) (platform hostname : String) : Prop :=
  At nodes hostname fun node => platform ∈ node.platforms

def OfClient (calls : CallMap) (client id : String) : Prop :=
  At calls id fun call => call.client = client

def OnNode (calls : CallMap) (node id : String) : Prop :=
  At calls id fun call => call.node = node

def BoundTo (owners : OwnerMap) (app address : String) : Prop :=
  owners[address]? = some app

def HasResource (clients : ClientMap) (bare resource : String) : Prop :=
  ∃ jid, At clients jid fun client => client.bareJid = bare ∧ client.resource = resource

/-- Every client is made from the JID that it stands under. -/
def Made (clients : ClientMap) : Prop :=
  ∀ jid client, clients[jid]? = some client → client = Client.ofJid jid client.platform

/-- The client of another JID has the bare part and the resource of this one. -/
def Doubled (clients : ClientMap) (jid : String) : Prop :=
  ∃ other, other ≠ jid ∧
    At clients other fun client => client.bareJid = bare jid ∧ client.resource = resource jid

/-- Every client is cut from the JID that it stands under. -/
def Cut (clients : ClientMap) : Prop :=
  ∀ jid client, clients[jid]? = some client →
    NoBareSlash jid ∧ client = Client.ofJid jid client.platform

/-! ## IP addresses -/

/-- Who holds an IP address after a node is written that takes it from nobody: the addresses that
the node gives up are free. -/
theorem holdsIp_insert_iff {nodes : NodeMap} (unique : IpsUnique nodes) {node : Node}
    (free : ¬ IpTaken nodes node.ipAddress node.hostname) (ip hostname : String) :
    HoldsIp (nodes.insert node.hostname node) ip hostname ↔
      if node.ipAddress = ip then hostname = node.hostname
      else ¬ HoldsIp nodes ip node.hostname ∧ HoldsIp nodes ip hostname := by
  rw [HoldsIp, at_insert]
  by_cases hip : node.ipAddress = ip
  · rw [if_pos hip]
    by_cases hh : node.hostname = hostname
    · simp [hh, hip]
    · rw [if_neg hh]
      constructor
      · intro held
        rw [← hip] at held
        exact absurd ⟨hostname, Ne.symm hh, held⟩ free
      · intro he
        exact absurd he.symm hh
  · rw [if_neg hip]
    by_cases hh : node.hostname = hostname
    · subst hh
      simp [hip]
    · rw [if_neg hh]
      constructor
      · intro held
        exact ⟨fun own => hh (unique ip _ _ own held), held⟩
      · exact fun h => h.2

/-- Who holds an IP address after a node is taken away. -/
theorem holdsIp_erase_iff {nodes : NodeMap} (unique : IpsUnique nodes) (gone ip hostname : String) :
    HoldsIp (nodes.erase gone) ip hostname ↔
      ¬ HoldsIp nodes ip gone ∧ HoldsIp nodes ip hostname := by
  rw [HoldsIp, at_erase]
  constructor
  · rintro ⟨hne, held⟩
    exact ⟨fun own => hne (unique ip _ _ own held), held⟩
  · rintro ⟨hfree, held⟩
    refine ⟨fun he => hfree ?_, held⟩
    rw [he]
    exact held

/-! ## Platforms -/

theorem serves_insert_iff (nodes : NodeMap) (node : Node) (platform hostname : String) :
    Serves (nodes.insert node.hostname node) platform hostname ↔
      if node.hostname = hostname then platform ∈ node.platforms
      else Serves nodes platform hostname :=
  at_insert node node.hostname hostname _

theorem serves_erase_iff (nodes : NodeMap) (gone platform hostname : String) :
    Serves (nodes.erase gone) platform hostname ↔
      gone ≠ hostname ∧ Serves nodes platform hostname :=
  at_erase gone hostname _

theorem serves_of_some {nodes : NodeMap} {hostname : String} {node : Node}
    (known : nodes[hostname]? = some node) (platform : String) :
    Serves nodes platform hostname ↔ platform ∈ node.platforms :=
  at_of_some known _

/-! ## Fields of calls -/

section Fields

variable {calls : CallMap} {call : Call} (field : Call → String)

theorem at_field_insert_iff (fresh : calls[call.id]? = none) (key id : String) :
    At (calls.insert call.id call) id (field · = key) ↔
      (field call = key ∧ call.id = id) ∨ At calls id (field · = key) := by
  rw [at_insert]
  by_cases hid : call.id = id
  · subst hid
    simp [not_at_of_none fresh]
  · simp [hid]

theorem at_field_erase_iff (known : calls[call.id]? = some call) (key id : String) :
    At (calls.erase call.id) id (field · = key) ↔
      ¬ (field call = key ∧ call.id = id) ∧ At calls id (field · = key) := by
  rw [at_erase]
  by_cases hid : call.id = id
  · subst hid
    simp [at_of_some known]
  · simp [hid]

end Fields

/-! ## Resources of clients -/

section Resources

variable {clients : ClientMap}

theorem cut_empty : Cut ∅ := by
  intro jid client known
  simp at known

theorem Cut.insert (cut : Cut clients) {jid : String} (h : NoBareSlash jid) (platform : String) :
    Cut (clients.insert jid (Client.ofJid jid platform)) :=
  forall_insert cut ⟨h, rfl⟩

theorem Cut.erase (cut : Cut clients) (gone : String) : Cut (clients.erase gone) :=
  forall_erase cut gone

theorem Cut.made (cut : Cut clients) : Made clients :=
  fun jid client known => (cut jid client known).2

/-- Clients of different JIDs differ in bare part or resource. -/
theorem Cut.not_doubled (cut : Cut clients) {jid : String} (h : NoBareSlash jid) :
    ¬ Doubled clients jid := by
  rintro ⟨other, hne, client, known, hbare, hresource⟩
  obtain ⟨hother, hclient⟩ := cut other client known
  rw [hclient] at hbare hresource
  exact hne (RawJid.eq_of_parts_eq hother h hbare hresource)

theorem made_empty : Made ∅ := cut_empty.made

theorem Made.insert (made : Made clients) (jid platform : String) :
    Made (clients.insert jid (Client.ofJid jid platform)) :=
  forall_insert made rfl

theorem Made.erase (made : Made clients) (gone : String) : Made (clients.erase gone) :=
  forall_erase made gone

theorem Made.hasResource_insert_iff (made : Made clients) (jid platform row name : String) :
    HasResource (clients.insert jid (Client.ofJid jid platform)) row name ↔
      (bare jid = row ∧ resource jid = name) ∨ HasResource clients row name := by
  unfold HasResource
  simp only [at_insert]
  constructor
  · intro ⟨other, h⟩
    by_cases hk : jid = other
    · rw [if_pos hk] at h
      exact Or.inl h
    · rw [if_neg hk] at h
      exact Or.inr ⟨other, h⟩
  · intro h
    by_cases hown : bare jid = row ∧ resource jid = name
    · exact ⟨jid, by rw [if_pos rfl]; exact hown⟩
    · obtain ⟨other, client, known, hparts⟩ := h.resolve_left hown
      have hk : jid ≠ other := by
        intro he
        rw [made other client known, ← he] at hparts
        exact hown hparts
      exact ⟨other, by rw [if_neg hk]; exact ⟨client, known, hparts⟩⟩

/-- A resource that is not the one of the JID stays with whoever has it. -/
theorem Made.hasResource_erase (made : Made clients) {jid row name : String}
    (other : ¬ (bare jid = row ∧ resource jid = name)) (held : HasResource clients row name) :
    HasResource (clients.erase jid) row name := by
  obtain ⟨holder, client, known, hparts⟩ := held
  refine ⟨holder, (at_erase jid holder _).2 ⟨fun he => other ?_, client, known, hparts⟩⟩
  rw [made holder client known, ← he] at hparts
  exact hparts

theorem Made.hasResource_erase_iff (made : Made clients) {jid : String}
    (alone : ¬ Doubled clients jid) (row name : String) :
    HasResource (clients.erase jid) row name ↔
      ¬ (bare jid = row ∧ resource jid = name) ∧ HasResource clients row name := by
  constructor
  · rintro ⟨other, held⟩
    obtain ⟨hne, client, known, hrow, hname⟩ := (at_erase jid other _).1 held
    refine ⟨?_, other, client, known, hrow, hname⟩
    rintro ⟨rfl, rfl⟩
    exact alone ⟨other, Ne.symm hne, client, known, hrow, hname⟩
  · rintro ⟨hother, held⟩
    exact made.hasResource_erase hother held

end Resources

/-! ## Bound addresses -/

def unboundFrom (owners : OwnerMap) (jid : String) : OwnerMap :=
  owners.filter fun _ app => app ≠ jid

theorem boundTo_unboundFrom (owners : OwnerMap) (jid app address : String) :
    BoundTo (unboundFrom owners jid) app address ↔ app ≠ jid ∧ BoundTo owners app address := by
  unfold BoundTo unboundFrom
  rw [Std.ExtTreeMap.getElem?_filter', Option.filter_eq_some_iff]
  simp only [decide_eq_true_eq]
  exact and_comm

def boundAll (owners : OwnerMap) (addresses : List String) (jid : String) : OwnerMap :=
  addresses.foldl (fun owners address => owners.insert address jid) owners

theorem boundTo_boundAll (owners : OwnerMap) (addresses : List String) (jid app address : String) :
    BoundTo (boundAll owners addresses jid) app address ↔
      if address ∈ addresses then app = jid else BoundTo owners app address := by
  unfold boundAll
  induction addresses generalizing owners with
  | nil => simp
  | cons first rest ih =>
      rw [List.foldl_cons, ih, BoundTo, Maps.getElem?_insert]
      by_cases hrest : address ∈ rest
      · simp [hrest]
      · by_cases hfirst : first = address
        · simp [hfirst, hrest, eq_comm]
        · simp [hrest, hfirst, Ne.symm hfirst, BoundTo]

end Switchboard.Records
