import Switchboard.Gateway.Registration
import Switchboard.Gateway.Selection

/-! # Routing calls

Selecting the node for the next call, keeping count of failures, sending an
operation to one node after another until it succeeds, and choosing among the
bound resources of a client.
-/

namespace Switchboard.Gateway

variable {σ α : Type} [Directory σ]

def preferredNodes (g : Gateway σ) (excluded : List String) (platform : String) : List Node :=
  Selection.preferred
    (Selection.candidates g.maxConsecutiveErrors excluded
      (Directory.nodesForPlatform platform g.directory))

def selectExcluding (excluded : List String) (platform : String) (g : Gateway σ) :
    Except GatewayError Node × Gateway σ :=
  let nodes := g.preferredNodes excluded platform
  let g := g.noteLookup
  if nodes.isEmpty then (.error (.noNodeAvailable platform), g)
  else
    let (turn, platformCursors) := g.platformCursors.next platform
    let chosen := match Selection.winner? nodes turn with
      | some node => .ok node
      | none => .error (.noNodeAvailable platform)
    (chosen, { g with platformCursors })

def select (platform : String) : Gateway σ → Except GatewayError Node × Gateway σ :=
  selectExcluding [] platform

/-- The registered record of a node, or the given one when there is none. -/
def current (node : Node) (g : Gateway σ) : Node × Gateway σ :=
  g.look fun s => (Directory.getNode? node.hostname s).getD node

def recordFailure (node : Node) (g : Gateway σ) : Except GatewayError Node × Gateway σ :=
  let (node, g) := g.current node
  g.command (Directory.updateNode node.withFailure)

def recordSuccess (node : Node) (g : Gateway σ) : Except GatewayError Node × Gateway σ :=
  let (node, g) := g.current node
  if node.consecutiveErrors = 0 then (.ok node, g)
  else g.command (Directory.updateNode { node with consecutiveErrors := 0 })

/-! ## Dispatch -/

/-- One attempt of an operation on a node; it may change the directory and fails with a reason. -/
abbrev Attempt (σ α : Type) : Type := Node → σ → Except String α × σ

structure Dispatched (α : Type) where
  attempts : List Node
  result : Except GatewayError α

/-- At most `rounds` attempts on nodes not tried before; `last` is the failure so far. -/
def dispatchRounds (platform : String) (attempt : Attempt σ α) :
    (rounds : Nat) → (tried : List String) → (last : Option GatewayError) → Gateway σ →
      Dispatched α × Gateway σ
  | 0, _, last, g => (⟨[], .error (last.getD (.noNodeAvailable platform))⟩, g)
  | rounds + 1, tried, last, g =>
    match g.selectExcluding tried platform with
    | (.error e, g) => (⟨[], .error (last.getD e)⟩, g)
    | (.ok node, g) =>
      match attempt node g.directory with
      | (.ok value, directory) =>
        let (_, g) := { g with directory }.recordSuccess node
        (⟨[node], .ok value⟩, g)
      | (.error reason, directory) =>
        let (_, g) := { g with directory }.recordFailure node
        let (report, g) := dispatchRounds platform attempt rounds (node.hostname :: tried)
          (some (.nodeOperation node.hostname reason)) g
        (⟨node :: report.attempts, report.result⟩, g)

/-- Sends an operation to nodes of a platform until one succeeds; no node is tried twice, and at
most `maxRetries` attempts follow the first one. -/
def dispatch (platform : String) (maxRetries : UInt32) (attempt : Attempt σ α) :
    Gateway σ → Dispatched α × Gateway σ :=
  dispatchRounds platform attempt (maxRetries.toNat + 1) [] none

/-! ## Client resources -/

/-- The full JID of a resource; the bare JID alone when the resource is empty. -/
def resourceJid (bare resource : String) : String :=
  if resource.isEmpty then bare else RawJid.full bare resource

def pickResource (jid : String) (g : Gateway σ) : Option String × Gateway σ :=
  let bare := RawJid.bare jid
  let (bound, g) := g.resources bare
  if bound.isEmpty then (none, g)
  else
    let sorted := bound.mergeSort
    let (turn, clientCursors) := g.clientCursors.next bare
    let resource := sorted[turn.toNat % sorted.length]?
    (resource.map (resourceJid bare), { g with clientCursors })

end Switchboard.Gateway
