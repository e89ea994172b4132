import Switchboard.Columns.Runtime
import Switchboard.Proofs.Directory.Failing
import Switchboard.Proofs.Gateway.Preserved

/-! # The platform that a client is bound on

A client is due the platform of the application of its bare JID, or the default platform when
there is no application or it names none. The look-up takes a failing read for an absent
application, and the client is written without any further read. So where reads fail and
writes do not, a client is bound on the default platform whichever is due. A refusal leaves
everything that is stored as it was.
-/

namespace Switchboard.Gateway

variable {g : Gateway Backend} {text : String} {jid : Jid}

/-- The platform that a client of this JID is due: that of the application stored under its bare
part, or the default one. -/
def duePlatform (g : Gateway Backend) (jid : Jid) : String :=
  g.platformFor (Directory.getApplication? jid.toBare.render g.directory.readable)

theorem platformOf_eq (holds : ∃ nodes, g.directory.Holds nodes) (jid : Jid) :
    g.platformOf jid =
      if g.directory.failsReads then g.defaultPlatform else g.duePlatform jid := by
  obtain ⟨nodes, holds⟩ := holds
  cases reads : g.directory.failsReads with
  | true =>
      rw [platformOf, holds.getApplication?_of_failsReads reads]
      rfl
  | false =>
      rw [platformOf, duePlatform, Backend.readable_of_reads reads]
      rfl

/-- What registering a client answers and what it leaves stored. -/
structure Registers (text : String) (g : Gateway Backend)
    (result : Except GatewayError Client × Gateway Backend) : Prop where
  accepted_iff : (∃ client, result.1 = .ok client) ↔
    (∃ jid, Jid.parse text = .ok jid) ∧ g.directory.failsWrites = false
  /-- The answered client is the one that is stored. -/
  stored : ∀ client, result.1 = .ok client →
    Directory.getClient? client.jid result.2.directory.readable = some client
  /-- Where reads fail, the platform is the default one and may not be what is due. -/
  bound : ∀ client jid, result.1 = .ok client → Jid.parse text = .ok jid →
    client = .ofJid jid.render
      (if g.directory.failsReads then g.defaultPlatform else g.duePlatform jid)
  refused : ∀ e, result.1 = .error e → g.directory.SameData result.2.directory

theorem Registers.of_refused {result : Except GatewayError Client × Gateway Backend}
    {e : GatewayError} (refused : result.1 = .error e)
    (cause : ∀ jid, Jid.parse text = .ok jid → g.directory.failsWrites = true)
    (same : g.directory.SameData result.2.directory) : Registers text g result := by
  have never (client : Client) : result.1 ≠ .ok client := by
    rw [refused]
    exact nofun
  constructor
  case accepted_iff =>
    constructor
    · exact fun ⟨client, accepted⟩ => absurd accepted (never client)
    · rintro ⟨⟨jid, parsed⟩, writes⟩
      cases writes.symm.trans (cause jid parsed)
  case stored => exact fun client accepted => absurd accepted (never client)
  case bound => exact fun client _ accepted => absurd accepted (never client)
  case refused => exact fun _ _ => same

theorem registers_of_writes (holds : ∃ nodes, g.directory.Holds nodes)
    (parsed : Jid.parse text = .ok jid) (writes : g.directory.failsWrites = false) :
    Registers text g (g.registerClient text) := by
  have platform := platformOf_eq holds jid
  obtain ⟨nodes, holds⟩ := holds
  rw [← Backend.failsWrites_noteLookup] at writes
  obtain ⟨answered, found⟩ :=
    holds.noteLookup.storeClient_of_writes writes jid.render (g.platformOf jid)
  have result : (g.registerClient text).1 = .ok (.ofJid jid.render (g.platformOf jid)) := by
    rw [registerClient_of_parse parsed]
    exact congrArg (Except.mapError GatewayError.directory) answered
  rw [Backend.failsWrites_noteLookup] at writes
  constructor
  case accepted_iff => exact ⟨fun _ => ⟨⟨jid, parsed⟩, writes⟩, fun _ => ⟨_, result⟩⟩
  case stored =>
    intro client accepted
    cases result.symm.trans accepted
    rw [registerClient_of_parse parsed]
    exact found
  case bound =>
    intro client jid' accepted parsed'
    cases result.symm.trans accepted
    cases parsed.symm.trans parsed'
    rw [platform]
  case refused =>
    intro e refused
    cases result.symm.trans refused

theorem registers_registerClient (holds : ∃ nodes, g.directory.Holds nodes) (text : String) :
    Registers text g (g.registerClient text) := by
  cases parsed : Jid.parse text with
  | error e =>
      rw [registerClient_of_parse_error parsed]
      refine .of_refused rfl (fun jid parsed' => ?_) (Backend.sameData_refl g.directory)
      cases parsed.symm.trans parsed'
  | ok jid =>
      cases fails : g.directory.failsWrites with
      | false => exact registers_of_writes holds parsed fails
      | true =>
          obtain ⟨nodes, holds⟩ := holds
          obtain ⟨e, unwritten⟩ := holds.noteLookup.storeClient_of_failsWrites
            ((Backend.failsWrites_noteLookup _).trans fails)
            (.ofJid jid.render (g.platformOf jid))
          let client := Client.ofJid jid.render (g.platformOf jid)
          have refused : ((Operation.storeClient client).run
              (Directory.noteLookup g.directory)).1 = .error e :=
            congrArg (Except.map (Answer.client ∘ some)) unwritten
          rw [registerClient_of_parse parsed]
          exact .of_refused (congrArg (Except.mapError GatewayError.directory) unwritten)
            (fun _ _ => fails) (Backend.sameData_of_refused refused)

/-- After every history, whichever reads and writes were made to fail in it, a text that names a
JID registers a client unless writes fail, and what is refused leaves nothing behind. The client
is bound on the platform that it is due exactly when reads work or that is the default one. -/
theorem client_platform_due_iff {start : Gateway Backend} (fresh : start.directory.Fresh)
    (turns : List Turn) (text : String) :
    let g := start.afterTurns turns
    Registers text g (g.registerClient text) ∧
      ∀ client jid, (g.registerClient text).1 = .ok client → Jid.parse text = .ok jid →
        (client.platform = g.duePlatform jid ↔
          g.directory.failsReads = false ∨ g.duePlatform jid = g.defaultPlatform) := by
  intro g
  have registers := registers_registerClient (fresh.holds_afterTurns turns) text
  refine ⟨registers, fun client jid accepted parsed => ?_⟩
  rw [registers.bound client jid accepted parsed, Client.ofJid]
  cases g.directory.failsReads with
  | false => exact ⟨fun _ => .inl rfl, fun _ => rfl⟩
  | true =>
      refine ⟨fun same => .inr same.symm, ?_⟩
      rintro (reads | same)
      · cases reads
      · exact same.symm

/-- The application of a bare JID is stored, but it cannot be read when a client is registered. -/
theorem client_platform_not_due_of_unread :
    let cluster := (Replicated.openOn {} {}).2
    let start : Gateway Backend :=
      { directory := .replicated ⟨cluster, "rayo"⟩, defaultPlatform := "staging" }
    let turns : List Turn := [
      .act (.directory (.storeApplication (.ofJid "a@b" "production"))), .event (.failReads true)]
    let g := start.afterTurns turns
    let jid : Jid := ⟨some "a", "b", some "c"⟩
    ∃ client, (g.registerClient "a@b/c").1 = .ok client ∧ client.platform = "staging" ∧
      g.duePlatform jid = "production" ∧ client.platform ≠ g.duePlatform jid := by
  intro cluster start turns g jid
  have opened : Replicated.openOn {} {} = (.ok ⟨cluster, "rayo"⟩, cluster) := by decide +kernel
  have fresh : start.directory.Fresh := .replicated rfl opened
  have parsed : Jid.parse "a@b/c" = .ok jid := by decide +kernel
  obtain ⟨registers, due⟩ := client_platform_due_iff fresh turns "a@b/c"
  obtain ⟨client, accepted⟩ := registers.accepted_iff.2 ⟨⟨jid, parsed⟩, by decide +kernel⟩
  have production : g.duePlatform jid = "production" := by decide +kernel
  have unread : g.directory.failsReads = true := by decide +kernel
  have bound := registers.bound client jid accepted parsed
  rw [if_pos unread] at bound
  refine ⟨client, accepted, congrArg Client.platform bound, production, fun same => ?_⟩
  rcases (due client jid accepted parsed).1 same with reads | default
  · cases unread.symm.trans reads
  · exact absurd default (by decide +kernel)

end Switchboard.Gateway
