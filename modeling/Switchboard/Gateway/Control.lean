import Switchboard.Gateway.Basic

/-! # Operator controls

Blacklisting nodes, banning JIDs and the retry policy.
-/

namespace Switchboard.Gateway

variable {σ : Type} [Directory σ]

/-- Sets or clears the blacklist flag of a node on a platform and clears its failures.  Answers
whether the platform has the node.  A change that cannot be written is counted, not refused. -/
def blacklist (platform hostname : String) (blacklisted : Bool) (g : Gateway σ) :
    Except GatewayError Bool × Gateway σ :=
  let (found, g) := g.look (Directory.findNode hostname)
  match found with
  | .error e => (.error (.directory e), g)
  | .ok found =>
    match found.filter (·.serves platform) with
    | none => (.ok false, g)
    | some node =>
      let node := { node with blacklisted, consecutiveErrors := 0 }
      match g.command (Directory.updateNode node) with
      | (.ok _, g) => (.ok true, g)
      | (.error _, g) =>
        let failures := g.controls.failedBlacklistUpdates + 1
        (.ok true, { g with controls := { g.controls with failedBlacklistUpdates := failures } })

omit [Directory σ]

def ban (jid : String) (g : Gateway σ) : Gateway σ :=
  { g with controls := { g.controls with banned := g.controls.banned.insert jid } }

def unban (jid : String) (g : Gateway σ) : Gateway σ :=
  { g with controls := { g.controls with banned := g.controls.banned.erase jid } }

def isBanned (jid : String) (g : Gateway σ) : Bool :=
  g.controls.banned.contains jid

def bannedJids (g : Gateway σ) : List String :=
  g.controls.banned.toList

def setMaxDialRetries (retries : UInt32) (g : Gateway σ) : Gateway σ :=
  { g with controls := { g.controls with maxDialRetries := retries } }

end Switchboard.Gateway
