import Switchboard.Directory.Operation
import Switchboard.Gateway.Control
import Switchboard.Gateway.Routing

/-! # Gateway actions as data

Every action of a gateway as a value, so that a history is a list of actions.
`Action.perform` carries one out on a gateway over any directory.
-/

namespace Switchboard

/-- What an attempt on a node does: it removes nodes from the directory and then fails with a
reason or succeeds. -/
structure Script where
  removes : List String := []
  failure : Option String := none
deriving DecidableEq, Repr

def Script.attempt {σ : Type} [Directory σ] (script : Node → Script) : Gateway.Attempt σ String :=
  fun node s =>
    let s := (script node).removes.foldl (fun s hostname => (Directory.removeNode hostname s).2) s
    match (script node).failure with
    | some reason => (.error reason, s)
    | none => (.ok node.hostname, s)

inductive Action where
  /-- An operation on the directory that the gateway passes on as it is. -/
  | directory (op : Operation)
  | registerNode (node : Node)
  | nodeForCall (id : String)
  | registerClient (jid : String)
  | resources (jid : String)
  | platformForClient (jid : String)
  | select (platform : String)
  | recordFailure (node : Node)
  | recordSuccess (node : Node)
  | dispatch (platform : String) (maxRetries : UInt32) (script : Node → Script)
  | pickResource (jid : String)
  | blacklist (platform hostname : String) (blacklisted : Bool)
  | ban (jid : String)
  | unban (jid : String)
  | isBanned (jid : String)
  | bannedJids
  | setMaxDialRetries (retries : UInt32)
  | maxDialRetries
  | failedBlacklistUpdates

inductive Outcome where
  | answer (answer : Answer)
  | flag (flag : Bool)
  | count (n : Nat)
  | dispatched (report : Gateway.Dispatched String)

namespace Action

variable {σ α : Type} [Directory σ]

def outcome (f : α → Outcome) (result : Except GatewayError α × Gateway σ) :
    Except GatewayError Outcome × Gateway σ :=
  (result.1.map f, result.2)

def always (f : α → Outcome) (result : α × Gateway σ) : Except GatewayError Outcome × Gateway σ :=
  (.ok (f result.1), result.2)

def ofNode (node : Node) : Outcome :=
  .answer (.node (some node))

def perform (g : Gateway σ) : Action → Except GatewayError Outcome × Gateway σ
  | directory op => outcome .answer (g.command fun s => op.run s)
  | registerNode node => outcome ofNode (g.registerNode node)
  | nodeForCall id => always (fun node => .answer (.node node)) (g.nodeForCall? id)
  | registerClient jid =>
    outcome (fun client => .answer (.client (some client))) (g.registerClient jid)
  | resources jid => always (fun texts => .answer (.texts texts)) (g.resources jid)
  | platformForClient jid => always (fun text => .answer (.text text)) (g.platformForClient? jid)
  | select platform => outcome ofNode (g.select platform)
  | recordFailure node => outcome ofNode (g.recordFailure node)
  | recordSuccess node => outcome ofNode (g.recordSuccess node)
  | dispatch platform maxRetries script =>
    always .dispatched (g.dispatch platform maxRetries (Script.attempt script))
  | pickResource jid => always (fun text => .answer (.text text)) (g.pickResource jid)
  | blacklist platform hostname blacklisted =>
    outcome .flag (g.blacklist platform hostname blacklisted)
  | ban jid => always .answer (.done, g.ban jid)
  | unban jid => always .answer (.done, g.unban jid)
  | isBanned jid => always .flag (g.isBanned jid, g)
  | bannedJids => always (fun texts => .answer (.texts texts)) (g.bannedJids, g)
  | setMaxDialRetries retries => always .answer (.done, g.setMaxDialRetries retries)
  | maxDialRetries => always .count (g.controls.maxDialRetries.toNat, g)
  | failedBlacklistUpdates => always .count (g.controls.failedBlacklistUpdates.toNat, g)

def performAll (g : Gateway σ) : List Action → List (Except GatewayError Outcome) × Gateway σ
  | [] => ([], g)
  | action :: rest =>
    let (first, g) := perform g action
    let (outcomes, g) := performAll g rest
    (first :: outcomes, g)

end Action

end Switchboard
