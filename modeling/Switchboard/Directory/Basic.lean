import Switchboard.Directory.Error
import Switchboard.Directory.Record

/-! # The directory contract

A directory keeps nodes, calls, clients, applications and the addresses bound to
applications.  A command answers a record or a refusal and gives the state after
it.  A look-up leaves what is stored alone and never refuses because something is
absent; `findNode` alone tells a failing backend from an absent node.
-/

namespace Switchboard

/-- A step that may change the directory: its answer, and the state after it. -/
abbrev Command (σ α : Type) : Type := σ → Except DirectoryError α × σ

class Directory (σ : Type) where
  /-- Registers a node; refused when its hostname or its IP address is taken. -/
  storeNode : Node → Command σ Node
  updateNode : Node → Command σ Node
  removeNode : String → Command σ Node
  /-- The node with this hostname; a failing backend counts as absence. -/
  getNode? : String → σ → Option Node
  /-- The node with this hostname, unless the backend fails. -/
  findNode : String → σ → Except DirectoryError (Option Node)
  nodeForIp? : String → σ → Option Node
  nodesForPlatform : String → σ → List Node
  platforms : σ → List String
  /-- Registers a call or replaces the one with its id; its node has to be registered. -/
  storeCall : Call → Command σ Call
  removeCall : String → Command σ Call
  getCall? : String → σ → Option Call
  calls : σ → List String
  callsForClient : String → σ → List String
  callsForNode : String → σ → List String
  /-- Registers a client or replaces the one with its JID. -/
  storeClient : Client → Command σ Client
  removeClient : String → Command σ Client
  getClient? : String → σ → Option Client
  /-- The resources bound under the bare part of a JID. -/
  clientResources : String → σ → List String
  /-- The bare JIDs with a bound resource. -/
  clients : σ → List String
  /-- Creates an application; refused when there is one with its address. -/
  storeApplication : Application → Command σ Application
  getApplication? : String → σ → Option Application
  /-- Removes an application together with the addresses bound to it. -/
  removeApplication : String → Command σ Application
  /-- Binds addresses to an application, taking them from any other. -/
  storeAddresses : List String → String → Command σ Unit
  /-- Unbinds an address; an unbound one is ignored. -/
  removeAddress : String → Command σ Unit
  applicationForAddress? : String → σ → Option Application
  addressesForApplication : String → σ → List String
  /-- Keeps a record that a look-up was made. -/
  noteLookup : σ → σ

namespace Directory

variable {σ : Type} [Directory σ]

def nodeForCall? (id : String) (s : σ) : Option String :=
  (getCall? id s).map (·.node)

def storeAddress (address app : String) : Command σ Unit :=
  storeAddresses [address] app

end Directory

end Switchboard
