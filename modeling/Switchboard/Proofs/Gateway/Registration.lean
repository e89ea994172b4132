import Switchboard.Gateway.Registration
import Switchboard.Proofs.Gateway.Control

/-! # How a client is registered

A text that names a JID has its client stored under the JID that it names, with the platform
of the application of its bare part.
-/

namespace Switchboard.Gateway

variable {σ : Type} [Directory σ] {g g' : Gateway σ} {text : String} {jid : Jid}

theorem registerClient_of_parse_error {e : JidError} (refused : Jid.parse text = .error e) :
    g.registerClient text = (.error (.invalidJid e), g) := by
  rw [registerClient, refused]

def platformOf (g : Gateway σ) (jid : Jid) : String :=
  g.platformFor (Directory.getApplication? jid.toBare.render g.directory)

theorem registerClient_of_parse (parsed : Jid.parse text = .ok jid) :
    g.registerClient text =
      g.noteLookup.command (Directory.storeClient (.ofJid jid.render (g.platformOf jid))) := by
  rw [registerClient, parsed]
  rfl

/-- A registered client was stored under the JID that its text names. -/
theorem stored_of_registerClient_ok {client : Client}
    (registered : g.registerClient text = (.ok client, g')) :
    ∃ jid, Jid.parse text = .ok jid ∧
      let (result, s) := Directory.storeClient (.ofJid jid.render (g.platformOf jid))
        (Directory.noteLookup g.directory)
      result = .ok client ∧ g'.directory = s := by
  cases parsed : Jid.parse text with
  | error e =>
      rw [registerClient_of_parse_error parsed] at registered
      cases registered
  | ok jid =>
      rw [registerClient_of_parse parsed] at registered
      exact ⟨jid, rfl, ok_of_command registered⟩

end Switchboard.Gateway
