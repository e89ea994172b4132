import Std.Data.ExtTreeSet
import Switchboard.Jid.Raw
import Switchboard.Text.Numeral
import Switchboard.Text.Quoted

/-! # Directory records

Four kinds of record: media nodes, calls, clients and applications.  None owns
another; a record names others by their keys.
-/

namespace Switchboard

open Switchboard.Text

structure Node where
  /-- The key of the record. -/
  hostname : String
  /-- No two registered nodes share it. -/
  ipAddress : String
  platforms : Std.ExtTreeSet String
  /-- Lower values are preferred. -/
  priority : Int32 := 1
  /-- The node's share of the calls of its priority class. -/
  weight : Int32 := 1
  /-- Failures since the last success. -/
  consecutiveErrors : UInt32 := 0
  blacklisted : Bool := false
deriving DecidableEq

namespace Node

def serves (node : Node) (platform : String) : Bool :=
  node.platforms.contains platform

def isAvailable (node : Node) (maxErrors : UInt32) : Bool :=
  !node.blacklisted && node.consecutiveErrors ≤ maxErrors

/-- One more failure in a row; the count stops at its greatest value. -/
def withFailure (node : Node) : Node :=
  { node with consecutiveErrors :=
      if node.consecutiveErrors = UInt32.ofNat (UInt32.size - 1) then node.consecutiveErrors
      else node.consecutiveErrors + 1 }

def describe (node : Node) : String :=
  s!"{node.hostname} ({node.ipAddress}) platforms={Quoted.braced node.platforms.toList} " ++
    s!"priority={Numeral.ofInt node.priority.toInt} weight={Numeral.ofInt node.weight.toInt} " ++
    s!"errors={Numeral.ofNat node.consecutiveErrors.toNat} blacklisted={node.blacklisted}"

end Node

structure Call where
  /-- The key of the record. -/
  id : String
  client : String
  /-- The hostname of the hosting node. -/
  node : String
deriving DecidableEq, Repr

def Call.describe (call : Call) : String :=
  s!"{call.id} [client={call.client} node={call.node}]"

/-- A connected client, addressed by its full JID. -/
structure Client where
  /-- The key of the record. -/
  jid : String
  bareJid : String
  /-- Empty when the client has no resource. -/
  resource : String
  platform : String
deriving DecidableEq, Repr

namespace Client

/-- The client with this JID; its bare part and resource are cut from the JID. -/
def ofJid (jid platform : String) : Client :=
  ⟨jid, RawJid.bare jid, RawJid.resource jid, platform⟩

def describe (client : Client) : String :=
  s!"{client.jid} [platform={client.platform}]"

end Client

/-- A provisioned application, keyed by the address it binds to. -/
structure Application where
  /-- The key of the record. -/
  bareJid : String
  id : String
  platform : String
  name : String
  account : String
  permissions : String
deriving DecidableEq, Repr

namespace Application

/-- The application whose id is its address and whose other details are empty. -/
def ofJid (bareJid platform : String) : Application :=
  ⟨bareJid, bareJid, platform, "", "", ""⟩

def describe (app : Application) : String :=
  s!"{app.bareJid} [app={app.id} platform={app.platform} account={app.account}]"

end Application

end Switchboard
