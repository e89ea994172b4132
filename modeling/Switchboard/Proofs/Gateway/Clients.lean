import Switchboard.Proofs.Directory.Clients
import Switchboard.Proofs.Gateway.Preserved
import Switchboard.Proofs.Jid.Parse

/-! # Bound clients and the text that bound them

A client is bound under the JID that a text names, without the blanks around the text. It is
looked up and unbound under a text as it stands. So a client is found under the text that
bound it when there are no blanks around that, and otherwise it is hidden by them.
-/

namespace Switchboard

open Replicated (Event)
open RawJid (NoBareSlash bare resource)
open Text (trim)

/-! ## Clients that only the gateway binds -/

def Replicated.Event.StoresNoClient (event : Event) : Prop :=
  ∀ client, event ≠ .operation (.storeClient client)

/-- The entry makes nothing fail and stores no client but as the gateway does. -/
structure Replicated.Event.Ordinary (event : Event) : Prop where
  quiet : event.Quiet
  own : ∀ client, event = .operation (.storeClient client) → (Operation.storeClient client).Own

theorem Operation.Own.makesClients {op : Operation} (own : op.Own) : Memory.MakesClients op := by
  cases own with
  | storeClient platform parsed => rfl
  | _ => trivial

namespace Backend

/-- Nothing fails, and no client is found under a JID with blanks around it. -/
structure Trimmed (b : Backend) : Prop where
  inOrder : b.InOrder
  clients : ∀ jid, NoBareSlash jid → Directory.getClient? jid b ≠ none → trim jid = jid

variable {b b' : Backend}

theorem preserved_inOrder : Preserved InOrder Event.Quiet where
  noteLookup := InOrder.noteLookup
  after := fun inOrder quiet => inOrder.after quiet
  own := fun _ => trivial

theorem getClient?_of_contents {r r' : Replicated} (inOrder : (replicated r).InOrder)
    (inOrder' : (replicated r').InOrder) (same : r'.contents = r.contents) (jid : String) :
    Directory.getClient? jid r' = Directory.getClient? jid r := by
  obtain ⟨⟨⟨keyspace, ready⟩, reads, -⟩, -⟩ := inOrder
  obtain ⟨⟨⟨keyspace', ready'⟩, reads', -⟩, -⟩ := inOrder'
  rw [Replicated.getClient?_eq ready reads, Replicated.getClient?_eq ready' reads', same]

theorem Trimmed.of_same (trimmed : b.Trimmed) (inOrder : b'.InOrder)
    (same : ∀ jid, Directory.getClient? jid b' = Directory.getClient? jid b) : b'.Trimmed where
  inOrder := inOrder
  clients := by
    intro jid whole found
    rw [same] at found
    exact trimmed.clients jid whole found

theorem Fresh.trimmed (fresh : b.Fresh) (unfailing : b.Unfailing) : b.Trimmed where
  inOrder := fresh.inOrder unfailing
  clients := by
    intro jid _ found
    have inOrder := fresh.inOrder unfailing
    refine absurd ?_ found
    cases fresh with
    | memory =>
        change (∅ : Records.ClientMap)[jid]? = none
        simp
    | replicated empty opened =>
        obtain ⟨-, blank, -⟩ := Replicated.ready_of_openOn empty opened
        obtain ⟨⟨⟨keyspace, ready⟩, reads, -⟩, -⟩ := inOrder
        refine (Replicated.getClient?_eq ready reads jid).trans ?_
        rw [blank]
        simp

/-- A client that is stored as the gateway does stands under a JID without blanks around it. -/
theorem Trimmed.run (trimmed : b.Trimmed) {op : Operation}
    (ordinary : Event.Ordinary (.operation op)) : (op.run b).2.Trimmed where
  inOrder := trimmed.inOrder.run op
  clients := by
    intro jid whole found
    have makes : Memory.MakesClients op := by
      cases op with
      | storeClient client => exact (ordinary.own client rfl).makesClients
      | _ => trivial
    rcases trimmed.inOrder.getClient?_run makes found with earlier | ⟨client, rfl, hbare, hresource⟩
    · exact trimmed.clients jid whole earlier
    · cases ordinary.own client rfl with
      | storeClient platform parsed =>
          have same := RawJid.eq_of_parts_eq (Jid.noBareSlash_of_parse parsed) whole hbare hresource
          rw [← same, Jid.render_of_parse parsed, Text.trim_trim]

theorem preserved_trimmed : Preserved Trimmed Event.Ordinary where
  noteLookup := by
    intro b trimmed
    have inOrder := trimmed.inOrder.noteLookup
    refine trimmed.of_same inOrder fun jid => ?_
    cases b with
    | memory m => rfl
    | replicated r =>
        exact getClient?_of_contents trimmed.inOrder inOrder (Replicated.contents_noteRead r) jid
  after := by
    intro b event trimmed ordinary
    have inOrder := trimmed.inOrder.after ordinary.quiet
    cases event with
    | operation op =>
        rw [after_operation]
        exact trimmed.run ordinary
    | advance | failReads | failWrites =>
        refine trimmed.of_same inOrder fun jid => ?_
        cases b with
        | memory m => rfl
        | replicated r => exact getClient?_of_contents trimmed.inOrder inOrder rfl jid
  own := by
    intro op own
    refine ⟨trivial, fun client he => ?_⟩
    cases he
    exact own

end Backend

/-! ## Looking a client up and unbinding it -/

namespace Gateway

/-- The client is found under the text, and it is unbound under it. -/
structure Finds (g : Gateway Backend) (text : String) (client : Client) : Prop where
  platform : (g.platformForClient? text).1 = some client.platform
  resource : client.resource ∈ (g.resources text).1
  unbound : ∃ g', g.command (Directory.removeClient text) = (.ok client, g') ∧
    (g'.platformForClient? text).1 = none

structure Misses (g : Gateway Backend) (text : String) : Prop where
  platform : (g.platformForClient? text).1 = none
  refused : (g.command (Directory.removeClient text)).1 =
    .error (.directory (.notFound .client text))

variable {g g' : Gateway Backend} {text : String} {client : Client}

/-- Registering stores the client that it answers. -/
theorem stored_of_bound (inOrder : g.directory.InOrder)
    (bound : g.registerClient text = (.ok client, g')) :
    ∃ jid, Jid.parse text = .ok jid ∧ client = .ofJid jid.render (g.platformOf jid) ∧
      g'.directory = ((Operation.storeClient client).run (Directory.noteLookup g.directory)).2 := by
  obtain ⟨jid, parsed, answered, directory⟩ := stored_of_registerClient_ok bound
  obtain ⟨result, -⟩ := inOrder.noteLookup.storeClient jid.render (g.platformOf jid)
  obtain rfl := Except.ok.inj (result.symm.trans answered)
  exact ⟨jid, parsed, rfl, directory⟩

/-- A client is found under the text that bound it, without the blanks around that. -/
theorem finds_trimmed (inOrder : g.directory.InOrder)
    (bound : g.registerClient text = (.ok client, g')) : g'.Finds (trim text) client := by
  obtain ⟨jid, parsed, rfl, directory⟩ := stored_of_bound inOrder bound
  have inOrder' : g'.directory.InOrder := by
    rw [directory]
    exact inOrder.noteLookup.run _
  obtain ⟨-, found, listed⟩ := inOrder.noteLookup.storeClient jid.render (g.platformOf jid)
  rw [← Jid.render_of_parse parsed]
  have known : Directory.getClient? jid.render g'.directory =
      some (.ofJid jid.render (g.platformOf jid)) := by
    rw [directory]
    exact found
  refine ⟨congrArg (Option.map Client.platform) known, ?_, ?_⟩
  · change resource jid.render ∈ Directory.clientResources (bare jid.render) g'.directory
    rw [directory, Backend.clientResources_bare]
    exact listed
  · obtain ⟨removed, gone⟩ := inOrder'.removeClient_of_some known
    refine ⟨(g'.command (Directory.removeClient jid.render)).2, Prod.ext ?_ rfl, ?_⟩
    · exact congrArg (Except.mapError GatewayError.directory) removed
    · exact congrArg (Option.map Client.platform) gone

/-- Where clients are found under trimmed JIDs alone, blanks around a text hide the client. -/
theorem misses_of_blanks (trimmed : g.directory.Trimmed)
    (bound : g.registerClient text = (.ok client, g')) (blanks : trim text ≠ text) :
    g'.Misses text := by
  obtain ⟨jid, parsed, rfl, directory⟩ := stored_of_bound trimmed.inOrder bound
  have trimmed' : g'.directory.Trimmed := by
    rw [directory]
    exact Backend.preserved_trimmed.run_own trimmed (.storeClient _ parsed)
  have absent : Directory.getClient? text g'.directory = none := by
    by_contra found
    exact blanks (trimmed'.clients text (Jid.noBareSlash_text_of_parse parsed) found)
  constructor
  · exact congrArg (Option.map Client.platform) absent
  · exact congrArg (Except.mapError GatewayError.directory)
      (trimmed'.inOrder.removeClient_of_none absent)

/-- After every history without failures a client that is bound is found and unbound under the text
that bound it, without the blanks around that. With them nothing is found or unbound under it, if
clients are bound by the gateway alone. -/
theorem bound_client_found_without_blanks (fresh : g.directory.Fresh)
    (unfailing : g.directory.Unfailing) {turns : List Turn}
    (quiet : ∀ turn ∈ turns, turn.Obeys Event.Quiet)
    (bound : (g.afterTurns turns).registerClient text = (.ok client, g')) :
    g'.Finds (trim text) client ∧
      ((∀ turn ∈ turns, turn.Obeys Event.StoresNoClient) → trim text ≠ text →
        g'.Misses text) := by
  have inOrder := Backend.preserved_inOrder.afterTurns (fresh.inOrder unfailing) quiet
  refine ⟨finds_trimmed inOrder bound, fun own => ?_⟩
  have ordinary (turn : Turn) (hturn : turn ∈ turns) : turn.Obeys Event.Ordinary :=
    (quiet turn hturn).and
      (fun event quiet none => ⟨quiet, fun client he => absurd he (none client)⟩)
      (own turn hturn)
  have trimmed := Backend.preserved_trimmed.afterTurns (fresh.trimmed unfailing) ordinary
  exact misses_of_blanks trimmed bound

/-- A client is bound with a blank behind its JID, and looked up with the blank and without it. -/
theorem bound_client_not_found_with_blank :
    let text := "a@b/c "
    let client := Client.ofJid "a@b/c" "staging"
    let g : Gateway Backend := { directory := .memory {} }
    let g' := (g.registerClient text).2
    g.registerClient text = (.ok client, g') ∧ g'.Finds "a@b/c" client ∧ g'.Misses text := by
  intro text client g g'
  have parsed : Jid.parse text = .ok ⟨some "a", "b", some "c"⟩ := by decide +kernel
  have trimmed : trim text = "a@b/c" := by decide +kernel
  have bound : g.registerClient text = (.ok client, g') := by
    refine Prod.ext ?_ rfl
    rw [registerClient_of_parse parsed]
    rfl
  have fresh : g.directory.Fresh := .memory
  have quiet : ∀ turn ∈ ([] : List Turn), turn.Obeys Event.Quiet := by simp
  obtain ⟨found, missed⟩ := bound_client_found_without_blanks fresh trivial quiet bound
  rw [trimmed] at found
  exact ⟨bound, found, missed (by simp) (by decide)⟩

end Gateway

end Switchboard
