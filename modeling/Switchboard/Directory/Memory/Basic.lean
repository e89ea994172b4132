import Switchboard.Directory.Memory.Applications
import Switchboard.Directory.Memory.Calls
import Switchboard.Directory.Memory.Nodes

/-! # The directory in memory

Maps with their indices, for a gateway that runs alone.  A command writes a
record and all its index entries, or nothing.
-/

namespace Switchboard

structure Memory where
  nodes : Memory.Nodes := {}
  calls : Memory.Calls := {}
  applications : Memory.Applications := {}
deriving DecidableEq

namespace Memory

def onNodes {α : Type} (command : Command Nodes α) : Command Memory α := fun m =>
  let (result, nodes) := command m.nodes
  (result, { m with nodes })

def onCalls {α : Type} (command : Command Calls α) : Command Memory α := fun m =>
  let (result, calls) := command m.calls
  (result, { m with calls })

def onApplications {α : Type} (command : Command Applications α) : Command Memory α := fun m =>
  let (result, applications) := command m.applications
  (result, { m with applications })

instance : Directory Memory where
  storeNode node := onNodes (Nodes.store node)
  updateNode node := onNodes (Nodes.update node)
  removeNode hostname := onNodes (Nodes.remove hostname)
  getNode? hostname m := m.nodes.byHostname[hostname]?
  findNode hostname m := .ok m.nodes.byHostname[hostname]?
  nodeForIp? ip m := m.nodes.forIp? ip
  nodesForPlatform platform m := m.nodes.forPlatform platform
  platforms m := m.nodes.byPlatform.keys
  storeCall call m :=
    if m.nodes.byHostname.contains call.node then
      (.ok call, { m with calls := m.calls.store call })
    else (.error (.nodeNotFound call.node), m)
  removeCall id := onCalls (Calls.remove id)
  getCall? id m := m.calls.byId[id]?
  calls m := m.calls.byId.keys
  callsForClient jid m := m.calls.byClient.values jid
  callsForNode hostname m := m.calls.byNode.values hostname
  storeClient client m :=
    (.ok client, { m with applications := m.applications.storeClient client })
  removeClient jid := onApplications (Applications.removeClient jid)
  getClient? jid m := m.applications.clients[jid]?
  clientResources jid m := m.applications.resources.values (RawJid.bare jid)
  clients m := m.applications.resources.keys
  storeApplication app := onApplications (Applications.store app)
  getApplication? jid m := m.applications.applications[jid]?
  removeApplication jid := onApplications (Applications.remove jid)
  storeAddresses addresses jid := onApplications (Applications.storeAddresses addresses jid)
  removeAddress address m :=
    (.ok (), { m with applications := m.applications.unbind address })
  applicationForAddress? address m := m.applications.forAddress? address
  addressesForApplication jid m := m.applications.addresses.values jid
  noteLookup m := m

end Memory

end Switchboard
