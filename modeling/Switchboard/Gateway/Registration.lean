import Switchboard.Gateway.Basic
import Switchboard.Jid.Basic

/-! # Registering nodes and clients

The rules that the gateway adds to the directory: a node that is known already is
updated, and a client takes its platform from the application it belongs to.
-/

namespace Switchboard.Gateway

variable {σ : Type} [Directory σ]

def registerNode (node : Node) (g : Gateway σ) : Except GatewayError Node × Gateway σ :=
  let (known, g) := g.look (Directory.getNode? node.hostname)
  if known.isSome then g.command (Directory.updateNode node)
  else g.command (Directory.storeNode node)

def nodeForCall? (id : String) (g : Gateway σ) : Option Node × Gateway σ :=
  g.look fun s => (Directory.nodeForCall? id s).bind fun hostname => Directory.getNode? hostname s

/-- The platform of clients of an application; the default one when there is no application or
it names none. -/
def platformFor (g : Gateway σ) (app : Option Application) : String :=
  match app with
  | some app => if app.platform.isEmpty then g.defaultPlatform else app.platform
  | none => g.defaultPlatform

def registerClient (jid : String) (g : Gateway σ) : Except GatewayError Client × Gateway σ :=
  match Jid.parse jid with
  | .error e => (.error (.invalidJid e), g)
  | .ok jid =>
    let (app, g) := g.look (Directory.getApplication? jid.toBare.render)
    g.command (Directory.storeClient (Client.ofJid jid.render (g.platformFor app)))

def resources (jid : String) (g : Gateway σ) : List String × Gateway σ :=
  g.look (Directory.clientResources (RawJid.bare jid))

def platformForClient? (jid : String) (g : Gateway σ) : Option String × Gateway σ :=
  g.look fun s => (Directory.getClient? jid s).map (·.platform)

end Switchboard.Gateway
