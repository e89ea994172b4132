import Switchboard.Directory.Memory.Basic
import Switchboard.Directory.Replicated.Opening

/-! # Either kind of directory

A server chooses its directory when it starts; from then on both kinds are used
through one type.
-/

namespace Switchboard

inductive Backend where
  | memory (directory : Memory)
  | replicated (directory : Replicated)

namespace Backend

variable {α : Type}

def command (f : (σ : Type) → [Directory σ] → Command σ α) : Command Backend α
  | memory m =>
    let (result, m) := f Memory m
    (result, memory m)
  | replicated r =>
    let (result, r) := f Replicated r
    (result, replicated r)

def lookup (f : (σ : Type) → [Directory σ] → σ → α) : Backend → α
  | memory m => f Memory m
  | replicated r => f Replicated r

instance : Directory Backend where
  storeNode node := command fun _ => Directory.storeNode node
  updateNode node := command fun _ => Directory.updateNode node
  removeNode hostname := command fun _ => Directory.removeNode hostname
  getNode? hostname := lookup fun _ => Directory.getNode? hostname
  findNode hostname := lookup fun _ => Directory.findNode hostname
  nodeForIp? ip := lookup fun _ => Directory.nodeForIp? ip
  nodesForPlatform platform := lookup fun _ => Directory.nodesForPlatform platform
  platforms := lookup fun _ => Directory.platforms
  storeCall call := command fun _ => Directory.storeCall call
  removeCall id := command fun _ => Directory.removeCall id
  getCall? id := lookup fun _ => Directory.getCall? id
  calls := lookup fun _ => Directory.calls
  callsForClient jid := lookup fun _ => Directory.callsForClient jid
  callsForNode hostname := lookup fun _ => Directory.callsForNode hostname
  storeClient client := command fun _ => Directory.storeClient client
  removeClient jid := command fun _ => Directory.removeClient jid
  getClient? jid := lookup fun _ => Directory.getClient? jid
  clientResources jid := lookup fun _ => Directory.clientResources jid
  clients := lookup fun _ => Directory.clients
  storeApplication app := command fun _ => Directory.storeApplication app
  getApplication? jid := lookup fun _ => Directory.getApplication? jid
  removeApplication jid := command fun _ => Directory.removeApplication jid
  storeAddresses addresses jid := command fun _ => Directory.storeAddresses addresses jid
  removeAddress address := command fun _ => Directory.removeAddress address
  applicationForAddress? address := lookup fun _ => Directory.applicationForAddress? address
  addressesForApplication jid := lookup fun _ => Directory.addressesForApplication jid
  noteLookup
    | memory m => memory (Directory.noteLookup m)
    | replicated r => replicated (Directory.noteLookup r)

end Backend

end Switchboard
