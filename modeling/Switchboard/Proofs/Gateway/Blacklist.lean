import Switchboard.Proofs.Gateway.Preserved

/-! # Blacklisted nodes

A blacklisted node gets no calls, and its flag stays until an operator clears it or a record of
its hostname is written from outside. Keeping count of failures writes back the record that it
has just read; the copy at hand is used only when there is none to be read, and then the
directory refuses the update.
-/

namespace Switchboard

open Switchboard.Maps Switchboard.Records
open Replicated (Event WritesNode)

/-! ## Turns that spare hostnames -/

/-- The operation writes no record of a guarded hostname. -/
def Operation.Spares (guarded : String → Prop) (op : Operation) : Prop :=
  ∀ node, WritesNode node op → ¬ guarded node.hostname

@[simp] theorem Operation.spares_storeNode {guarded : String → Prop} {node : Node} :
    (storeNode node).Spares guarded ↔ ¬ guarded node.hostname := by
  simp [Spares, WritesNode]

@[simp] theorem Operation.spares_updateNode {guarded : String → Prop} {node : Node} :
    (updateNode node).Spares guarded ↔ ¬ guarded node.hostname := by
  simp [Spares, WritesNode]

theorem Operation.spares_storeClient {guarded : String → Prop} (client : Client) :
    (storeClient client).Spares guarded := by
  simp [Spares, WritesNode]

theorem Operation.spares_removeNode {guarded : String → Prop} (hostname : String) :
    (removeNode hostname).Spares guarded := by
  simp [Spares, WritesNode]

/-- No record of a guarded hostname is written for the action, and no flag of one is cleared. -/
def Action.Spares (guarded : String → Prop) : Action → Prop
  | .directory op => op.Spares guarded
  | .registerNode node => ¬ guarded node.hostname
  | .blacklist _ hostname blacklisted => guarded hostname → blacklisted = true
  | _ => True

def Replicated.Event.Spares (guarded : String → Prop) (event : Event) : Prop :=
  ∀ op, event = .operation op → op.Spares guarded

theorem Operation.Spares.event {guarded : String → Prop} {op : Operation}
    (spares : op.Spares guarded) : (Event.operation op).Spares guarded := by
  rintro _ ⟨⟩
  exact spares

def Course.Spares {α : Type} (guarded : String → Prop) (course : Course α) : Prop :=
  ∀ node b, ∀ event ∈ (course node b).1, event.Spares guarded

def Turn.Spares (guarded : String → Prop) : Turn → Prop
  | .act action => action.Spares guarded
  | .select _ _ => True
  | .dispatch _ _ course => course.Spares guarded
  | .event entry => entry.Spares guarded

theorem Turn.spares_nothing (turn : Turn) : turn.Spares fun _ => False := by
  have operation (op : Operation) : op.Spares fun _ => False := fun _ _ h => h
  cases turn with
  | act action =>
      cases action with
      | directory op => exact operation op
      | registerNode node => exact id
      | blacklist platform hostname blacklisted => exact False.elim
      | _ => trivial
  | select => trivial
  | dispatch => exact fun _ _ _ _ op _ => operation op
  | event => exact fun op _ => operation op

variable {guarded : String → Prop}

/-! ## Guarded records -/

def Flagged (guarded : String → Prop) (nodes : NodeMap) : Prop :=
  ∀ hostname record, guarded hostname → nodes[hostname]? = some record →
    record.blacklisted = true

def Backend.Guards (guarded : String → Prop) (b : Backend) : Prop :=
  ∃ nodes, b.Holds nodes ∧ Flagged guarded nodes

variable {nodes : NodeMap}

theorem Flagged.insert (flagged : Flagged guarded nodes) {node : Node}
    (allowed : guarded node.hostname → node.blacklisted = true) :
    Flagged guarded (nodes.insert node.hostname node) := by
  intro hostname record hguarded known
  rw [Maps.getElem?_insert] at known
  split at known
  · next same =>
      cases known
      exact allowed (same ▸ hguarded)
  · exact flagged hostname record hguarded known

theorem Flagged.erase (flagged : Flagged guarded nodes) (gone : String) :
    Flagged guarded (nodes.erase gone) := by
  intro hostname record hguarded known
  rw [Maps.getElem?_erase] at known
  split at known
  · cases known
  · exact flagged hostname record hguarded known

theorem Flagged.change (flagged : Flagged guarded nodes) {op : Operation} {nodes' : NodeMap}
    (change : NodeChange nodes op nodes') (spares : op.Spares guarded) :
    Flagged guarded nodes' := by
  cases change with
  | kept => exact flagged
  | stored node =>
      exact flagged.insert fun hguarded => absurd hguarded (spares node (Or.inl rfl))
  | updated node =>
      exact flagged.insert fun hguarded => absurd hguarded (spares node (Or.inr rfl))
  | removed hostname => exact flagged.erase hostname

namespace Backend

variable {b : Backend}

theorem Guards.noteLookup (guards : b.Guards guarded) :
    (Directory.noteLookup b).Guards guarded := by
  obtain ⟨nodes, holds, flagged⟩ := guards
  exact ⟨nodes, holds.noteLookup, flagged⟩

theorem Guards.after (guards : b.Guards guarded) {event : Event} (spares : event.Spares guarded) :
    (b.after event).Guards guarded := by
  obtain ⟨nodes, holds, flagged⟩ := guards
  obtain ⟨nodes', holds', rfl | ⟨op, rfl, change⟩⟩ := holds.after event
  · exact ⟨nodes', holds', flagged⟩
  · exact ⟨nodes', holds', flagged.change change (spares op rfl)⟩

theorem Guards.hostname_of_getNode? (guards : b.Guards guarded) {hostname : String} {shown : Node}
    (found : Directory.getNode? hostname b = some shown) : shown.hostname = hostname := by
  obtain ⟨nodes, holds, -⟩ := guards
  exact holds.hostname_of_getNode? found

/-- What is shown of a guarded node is blacklisted. -/
theorem Guards.blacklisted (guards : b.Guards guarded) {hostname : String} {shown : Node}
    (found : Directory.getNode? hostname b = some shown) (hguarded : guarded hostname) :
    shown.blacklisted = true := by
  obtain ⟨nodes, holds, flagged⟩ := guards
  obtain ⟨record, known, shows⟩ := holds.shows found
  rw [shows]
  exact flagged hostname record hguarded known

theorem Guards.blacklisted_of_mem (guards : b.Guards guarded) {platform : String} {node : Node}
    (listed : node ∈ Directory.nodesForPlatform platform b) (hguarded : guarded node.hostname) :
    node.blacklisted = true := by
  obtain ⟨nodes, holds, -⟩ := id guards
  exact guards.blacklisted (holds.getNode?_of_mem listed) hguarded

/-- An update of a guarded node that can be read has to keep the flag; one that cannot be read is
refused. -/
theorem Guards.updateNode (guards : b.Guards guarded) {node : Node}
    (keeps : ∀ shown, Directory.getNode? node.hostname b = some shown →
      guarded node.hostname → node.blacklisted = true) :
    (Directory.updateNode node b).2.Guards guarded := by
  obtain ⟨nodes, holds, flagged⟩ := guards
  cases found : Directory.getNode? node.hostname b with
  | none => exact ⟨nodes, holds.updateNode_unread found, flagged⟩
  | some shown =>
      obtain ⟨nodes', change, holds'⟩ := holds.run (.updateNode node)
      refine ⟨nodes', holds', ?_⟩
      cases change with
      | kept => exact flagged
      | updated => exact flagged.insert (keeps shown found)

/-- The registered record is written back with another count of failures. -/
theorem Guards.writeBack (guards : b.Guards guarded) (node : Node) (errors : UInt32) :
    (Directory.updateNode { Gateway.registered node b with consecutiveErrors := errors }
      (Directory.noteLookup b)).2.Guards guarded := by
  refine guards.noteLookup.updateNode fun shown found hguarded => ?_
  dsimp only at found hguarded ⊢
  rw [getNode?_noteLookup] at found
  cases read : Directory.getNode? node.hostname b with
  | none =>
      -- The copy at hand would be written, but what was not read before is not read now.
      rw [Gateway.registered, read, Option.getD_none, read] at found
      cases found
  | some current =>
      rw [Gateway.registered, read, Option.getD_some] at hguarded ⊢
      rw [guards.hostname_of_getNode? read] at hguarded
      exact guards.blacklisted read hguarded

end Backend

/-! ## Actions -/

namespace Gateway

variable {g : Gateway Backend}

/-- No guarded node is selected. -/
theorem not_guarded_of_selectExcluding (guards : g.directory.Guards guarded)
    {excluded : List String} {platform : String} {node : Node}
    (chosen : (g.selectExcluding excluded platform).1 = .ok node) : ¬ guarded node.hostname := by
  intro hguarded
  obtain ⟨listed, available, -⟩ := mem_of_selectExcluding chosen
  have flag := guards.blacklisted_of_mem listed hguarded
  simp [Node.isAvailable, flag] at available

/-- A flag that is set without a failed update is in the records from then on. -/
theorem guards_of_blacklist (sound : g.directory.Guards fun _ => False)
    {platform hostname : String} (accepted : (g.blacklist platform hostname true).1 = .ok true)
    (uncounted : (g.blacklist platform hostname true).2.controls.failedBlacklistUpdates =
      g.controls.failedBlacklistUpdates) :
    (g.blacklist platform hostname true).2.directory.Guards (· = hostname) := by
  obtain ⟨nodes, holds, -⟩ := sound
  cases read : Directory.findNode hostname g.directory with
  | error e =>
      rw [blacklist_of_unread read] at accepted
      cases accepted
  | ok found =>
      cases serves : found.filter (·.serves platform) with
      | none =>
          rw [blacklist_of_elsewhere read serves] at accepted
          cases accepted
      | some node =>
          have key : node.hostname = hostname :=
            holds.hostname_of_getNode? (Backend.getNode?_of_filter read serves)
          rcases hw : g.noteLookup.command (Directory.updateNode (withFlag true node)) with
            ⟨e | answer, g₁⟩
          · rw [blacklist_of_refused read serves hw] at uncounted
            have controls : g₁.controls = g.controls := congrArg (·.2.controls) hw.symm
            simp [controls] at uncounted
          · rw [blacklist_of_written read serves hw]
            obtain ⟨updated, directory⟩ := ok_of_command hw
            rw [directory]
            refine ⟨_, holds.noteLookup.updateNode_ok updated, ?_⟩
            rintro _ record rfl known
            rw [Maps.getElem?_insert] at known
            simp only [withFlag, key, if_true, Option.some.injEq] at known
            rw [← known]

/-- No step that spares the guarded hostnames lifts a flag of theirs. -/
theorem carried_guards (guarded : String → Prop) :
    Carried (fun _ => Backend.Guards guarded) (Turn.Spares guarded) where
  noteLookup := Backend.Guards.noteLookup
  after := fun guards spares => guards.after spares
  recordFailure := by
    intro _ g node guards
    rw [recordFailure_eq]
    exact guards.writeBack node _
  recordSuccess := by
    intro _ g node guards
    rw [recordSuccess_eq]
    split
    · exact guards.noteLookup
    · exact guards.writeBack node 0
  blacklist := by
    intro _ g platform hostname blacklisted guards keeps
    rcases directory_blacklist_cases g platform hostname blacklisted with
      unwritten | ⟨found, node, read, serves, written⟩
    · rw [unwritten]
      exact guards.noteLookup
    · have key := guards.hostname_of_getNode? (Backend.getNode?_of_filter read serves)
      rw [written]
      refine guards.noteLookup.updateNode fun _ _ hguarded => keeps ?_
      rwa [← key]
  operation := Operation.Spares.event
  stored := fun spared => (Operation.spares_storeNode.2 spared).event
  updated := fun spared => (Operation.spares_updateNode.2 spared).event
  removed := fun hostname => (Operation.spares_removeNode hostname).event
  bound := fun _ _ => (Operation.spares_storeClient _).event
  course := id

theorem guards_afterTurns (guards : g.directory.Guards guarded) {turns : List Turn}
    (spares : ∀ turn ∈ turns, turn.Spares guarded) :
    (g.afterTurns turns).directory.Guards guarded :=
  @Carried.afterTurns _ _ [] g (carried_guards guarded) guards turns spares

/-! ## Every history -/

/-- The gateway selects no node of this hostname, and no dispatch whose attempts leave its record
alone attempts one; what is shown of the node is blacklisted. -/
structure Avoids (g : Gateway Backend) (hostname : String) : Prop where
  select : ∀ platform node, (g.select platform).1 = .ok node → node.hostname ≠ hostname
  selectExcluding : ∀ tried platform node,
    (g.selectExcluding tried platform).1 = .ok node → node.hostname ≠ hostname
  dispatch : ∀ {α : Type} (platform : String) (maxRetries : UInt32) (course : Course α),
    course.Spares (· = hostname) →
      ∀ node ∈ (g.dispatch platform maxRetries course.attempt).1.attempts,
        node.hostname ≠ hostname
  shown : ∀ node, Directory.getNode? hostname g.directory = some node → node.blacklisted = true

theorem avoids_of_guards {hostname : String} (guards : g.directory.Guards (· = hostname)) :
    g.Avoids hostname where
  select := fun _ _ chosen => not_guarded_of_selectExcluding guards chosen
  selectExcluding := fun _ _ _ chosen => not_guarded_of_selectExcluding guards chosen
  dispatch := by
    intro α platform maxRetries course spares node attempted
    obtain ⟨_, g', tried, guards', chosen⟩ := (@Carried.dispatchRounds _ _ [] g
      (carried_guards (· = hostname)) platform α course spares (maxRetries.toNat + 1) [] none
      guards).2 node attempted
    exact not_guarded_of_selectExcluding guards' chosen
  shown := fun _ found => guards.blacklisted found rfl

/-- From the moment that a node is blacklisted, and the change is written, no call is routed to it,
whatever happens short of clearing its flag or writing a record of its hostname from outside. -/
theorem blacklisted_node_is_never_routed_to (fresh : g.directory.Fresh) (before later : List Turn)
    (platform hostname : String)
    (accepted : ((g.afterTurns before).blacklist platform hostname true).1 = .ok true)
    (written :
      ((g.afterTurns before).blacklist platform hostname true).2.controls.failedBlacklistUpdates =
        (g.afterTurns before).controls.failedBlacklistUpdates)
    (spares : ∀ turn ∈ later, turn.Spares (· = hostname)) :
    (((g.afterTurns before).blacklist platform hostname true).2.afterTurns later).Avoids
      hostname := by
  have start : g.directory.Guards fun _ => False := ⟨∅, fresh.holds, fun _ _ h _ => h.elim⟩
  have sound := guards_afterTurns start fun turn (_ : turn ∈ before) => turn.spares_nothing
  exact avoids_of_guards (guards_afterTurns (guards_of_blacklist sound accepted written) spares)

/-- A node is blacklisted; then reports of its failure and success come in with the copy from
before, and a dispatch on the platform finds no other node. -/
theorem node_avoided_after_reports_of_stale_copy :
    let node : Node := ⟨"a", "10.0.0.1", .ofList ["pstn"], 1, 1, 0, false⟩
    let g : Gateway Backend :=
      ({ directory := .memory {} } : Gateway Backend).afterTurns [.act (.registerNode node)]
    let later : List Turn := [.act (.recordFailure node), .event (.failReads true),
      .act (.recordSuccess { node with consecutiveErrors := 3 }),
      .dispatch "pstn" 2 fun _ _ =>
        ([.operation (.removeNode "b")], (.error "busy" : Except _ Unit))]
    (g.blacklist "pstn" "a" true).1 = .ok true ∧
      ((g.blacklist "pstn" "a" true).2.afterTurns later).Avoids "a" := by
  intro node g later
  have accepted : (g.blacklist "pstn" "a" true).1 = .ok true := by
    dsimp only [g, node]
    rfl
  have written : (g.blacklist "pstn" "a" true).2.controls.failedBlacklistUpdates =
      g.controls.failedBlacklistUpdates := by
    dsimp only [g, node]
    rfl
  refine ⟨accepted, blacklisted_node_is_never_routed_to .memory
    [.act (.registerNode node)] later "pstn" "a" accepted written ?_⟩
  intro turn hturn
  simp only [later, List.mem_cons, List.not_mem_nil, or_false] at hturn
  rcases hturn with rfl | rfl | rfl | rfl
  · trivial
  · exact fun _ he => nomatch he
  · trivial
  · intro _ _ event hevent op he record written
    obtain rfl := List.mem_singleton.1 hevent
    cases he
    rcases written with h | h <;> cases h

end Gateway

end Switchboard
