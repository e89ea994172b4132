import Switchboard.Directory.Basic
import Switchboard.Directory.Memory.Listing

/-! # Node records in memory

The records by hostname, with two indices: hostnames by IP address, and hostnames
by platform in order of registration.
-/

namespace Switchboard.Memory

structure Nodes where
  byHostname : Std.ExtTreeMap String Node := ∅
  /-- The hostname that holds an IP address. -/
  byIp : Std.ExtTreeMap String String := ∅
  /-- The hostnames that serve a platform. -/
  byPlatform : Listing := ∅
deriving DecidableEq

namespace Nodes

def ipTaken (nodes : Nodes) (ip hostname : String) : Bool :=
  match nodes.byIp[ip]? with
  | some owner => owner != hostname
  | none => false

def put (nodes : Nodes) (node : Node) : Nodes where
  byHostname := nodes.byHostname.insert node.hostname node
  byIp := nodes.byIp.insert node.ipAddress node.hostname
  byPlatform := nodes.byPlatform.attachAll node.platforms.toList node.hostname

def store (node : Node) : Command Nodes Node := fun nodes =>
  if nodes.byHostname.contains node.hostname then
    (.error (.alreadyExists .node node.hostname), nodes)
  else if nodes.ipTaken node.ipAddress node.hostname then
    (.error (.alreadyExists .node node.ipAddress), nodes)
  else (.ok node, nodes.put node)

/-- Replaces a record.  On the platforms that the node goes on serving it keeps its place. -/
def update (node : Node) : Command Nodes Node := fun nodes =>
  match nodes.byHostname[node.hostname]? with
  | none => (.error (.notFound .node node.hostname), nodes)
  | some previous =>
    if nodes.ipTaken node.ipAddress node.hostname then
      (.error (.alreadyExists .node node.ipAddress), nodes)
    else
      let dropped := previous.platforms.toList.filter fun p => !node.serves p
      let byIp :=
        if previous.ipAddress ≠ node.ipAddress then nodes.byIp.erase previous.ipAddress
        else nodes.byIp
      let byPlatform := nodes.byPlatform.detachAll dropped node.hostname
      (.ok node, { nodes with byIp, byPlatform }.put node)

def remove (hostname : String) : Command Nodes Node := fun nodes =>
  match nodes.byHostname[hostname]? with
  | none => (.error (.notFound .node hostname), nodes)
  | some node =>
    let byIp :=
      if nodes.byIp[node.ipAddress]? = some node.hostname then nodes.byIp.erase node.ipAddress
      else nodes.byIp
    (.ok node,
      { byHostname := nodes.byHostname.erase hostname
        byIp
        byPlatform := nodes.byPlatform.detachAll node.platforms.toList node.hostname })

def forIp? (nodes : Nodes) (ip : String) : Option Node := do
  let hostname ← nodes.byIp[ip]?
  nodes.byHostname[hostname]?

def forPlatform (nodes : Nodes) (platform : String) : List Node :=
  (nodes.byPlatform.values platform).filterMap fun hostname => nodes.byHostname[hostname]?

end Nodes

end Switchboard.Memory
