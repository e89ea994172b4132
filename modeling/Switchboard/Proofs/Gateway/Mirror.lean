import Switchboard.Proofs.Directory.SameRecords
import Switchboard.Proofs.Gateway.Control
import Switchboard.Proofs.Gateway.History
import Switchboard.Proofs.Gateway.Routing
import Switchboard.Proofs.Jid.Parse

/-! # A gateway on either directory

Two gateways with the same settings, cursors and controls, one on a directory in memory and
one on a cluster with the same records, answer every action alike and stay so. Nodes and
resources may be listed in different orders; every consumer of such a list sorts it, counts
it or takes the least of it, and so gives one answer.
-/

namespace Switchboard

open Replicated (Event)
open RawJid (NoBareSlash)

/-- The directories hold the same records, and everything else is equal. -/
inductive Gateway.SameRecords (g : Gateway Backend) : Gateway Backend → Prop
  | intro {b : Backend} : g.directory.SameRecords b → SameRecords g { g with directory := b }

/-- The results are the same, and so are the gateways up to the kind of directory. -/
def Gateway.Agree {α : Type} (left right : α × Gateway Backend) : Prop :=
  left.1 = right.1 ∧ left.2.SameRecords right.2

/-- Attempts make nothing fail, and what they do depends on the records alone and not on the order
in which they are listed. -/
structure Course.Admissible {α : Type} (course : Course α) : Prop where
  events : ∀ node b, ∀ event ∈ (course node b).1, event.Admissible
  blind : ∀ node b b', b.SameRecords b' → course node b = course node b'

theorem Script.admissible_course (script : Node → Script) : (Script.course script).Admissible where
  events := by
    intro node b event hevent
    obtain ⟨hostname, -, rfl⟩ := List.mem_map.1 hevent
    trivial
  blind := fun _ _ _ _ => rfl

namespace Gateway

variable {α : Type} {g g' : Gateway Backend}

/-- Both sides, taken apart around the result that they share. -/
theorem Agree.exists_eq {left right : α × Gateway Backend} (agree : Agree left right) :
    ∃ result g g', left = (result, g) ∧ right = (result, g') ∧ g.SameRecords g' :=
  ⟨left.1, left.2, right.2, rfl, Prod.ext agree.1.symm rfl, agree.2⟩

theorem SameRecords.directory (same : g.SameRecords g') :
    g.directory.SameRecords g'.directory := by
  obtain ⟨records⟩ := same
  exact records

theorem SameRecords.noteLookup (same : g.SameRecords g') :
    g.noteLookup.SameRecords g'.noteLookup := by
  obtain ⟨records⟩ := same
  exact ⟨records.noteLookup⟩

theorem SameRecords.look (same : g.SameRecords g') {lookup : Backend → α}
    (h : lookup g.directory = lookup g'.directory) : Agree (g.look lookup) (g'.look lookup) :=
  ⟨h, same.noteLookup⟩

theorem SameRecords.command (same : g.SameRecords g') {command : Command Backend α}
    (h : Backend.SameResult (command g.directory) (command g'.directory)) :
    Agree (g.command command) (g'.command command) := by
  obtain ⟨-⟩ := same
  exact ⟨congrArg (Except.mapError GatewayError.directory) h.1, ⟨h.2⟩⟩

/-! ## Registering -/

theorem SameRecords.registerNode (same : g.SameRecords g') {node : Node}
    (plain : node.HasPlainNames) : Agree (g.registerNode node) (g'.registerNode node) := by
  unfold Gateway.registerNode Gateway.look
  dsimp only
  rw [same.directory.getNode?]
  split
  · exact same.noteLookup.command (same.directory.noteLookup.updateNode plain)
  · exact same.noteLookup.command (same.directory.noteLookup.storeNode plain)

theorem SameRecords.platformFor (same : g.SameRecords g') (app : Option Application) :
    g.platformFor app = g'.platformFor app := by
  obtain ⟨-⟩ := same
  rfl

theorem SameRecords.registerClient (same : g.SameRecords g') (text : String) :
    Agree (g.registerClient text) (g'.registerClient text) := by
  unfold Gateway.registerClient Gateway.look
  cases parsed : Jid.parse text with
  | error e => exact ⟨rfl, same⟩
  | ok jid =>
      dsimp only
      rw [same.directory.getApplication?, same.noteLookup.platformFor]
      exact same.noteLookup.command
        (same.directory.noteLookup.storeClient (Jid.noBareSlash_of_parse parsed) _)

theorem SameRecords.nodeForCall? (same : g.SameRecords g') (id : String) :
    Agree (g.nodeForCall? id) (g'.nodeForCall? id) := by
  refine same.look ?_
  rw [same.directory.nodeForCall?]
  exact congrArg _ (funext fun hostname => same.directory.getNode? hostname)

theorem SameRecords.platformForClient? (same : g.SameRecords g') {jid : String}
    (hjid : NoBareSlash jid) : Agree (g.platformForClient? jid) (g'.platformForClient? jid) :=
  same.look (congrArg _ (same.directory.getClient? hjid))

/-! ## Routing -/

/-- The nodes that count are the same and come in one order. -/
theorem SameRecords.preferredNodes (same : g.SameRecords g') (excluded : List String)
    (platform : String) :
    g.preferredNodes excluded platform = g'.preferredNodes excluded platform := by
  obtain ⟨records⟩ := same
  obtain ⟨listed, distinct⟩ := records.nodesForPlatform platform
  exact Selection.preferred_eq_of_perm (Selection.candidates_perm _ excluded listed)
    (Selection.nodup_hostnames_candidates _ excluded distinct)

theorem SameRecords.selectExcluding (same : g.SameRecords g') (excluded : List String)
    (platform : String) :
    Agree (g.selectExcluding excluded platform) (g'.selectExcluding excluded platform) := by
  have nodes := same.preferredNodes excluded platform
  obtain ⟨records⟩ := same
  unfold Gateway.selectExcluding
  dsimp only
  rw [← nodes]
  split
  · exact ⟨rfl, ⟨records.noteLookup⟩⟩
  · exact ⟨rfl, ⟨records.noteLookup⟩⟩

theorem SameRecords.registered (same : g.SameRecords g') (node : Node) :
    registered node g.directory = registered node g'.directory := by
  rw [Gateway.registered, same.directory.getNode?, Gateway.registered]

theorem SameRecords.plain_registered (same : g.SameRecords g') {node : Node}
    (plain : node.HasPlainNames) : (Gateway.registered node g.directory).HasPlainNames := by
  unfold Gateway.registered
  cases found : Directory.getNode? node.hostname g.directory with
  | none => exact plain
  | some record => exact same.directory.plain found

theorem SameRecords.recordFailure (same : g.SameRecords g') {node : Node}
    (plain : node.HasPlainNames) : Agree (g.recordFailure node) (g'.recordFailure node) := by
  have record : (Gateway.registered node g.directory).withFailure.HasPlainNames :=
    same.plain_registered plain
  rw [recordFailure_eq, recordFailure_eq, ← same.registered]
  exact same.noteLookup.command (same.directory.noteLookup.updateNode record)

theorem SameRecords.recordSuccess (same : g.SameRecords g') {node : Node}
    (plain : node.HasPlainNames) : Agree (g.recordSuccess node) (g'.recordSuccess node) := by
  rw [recordSuccess_eq, recordSuccess_eq, ← same.registered]
  split
  · exact ⟨rfl, same.noteLookup⟩
  · have record : Node.HasPlainNames
        { Gateway.registered node g.directory with consecutiveErrors := 0 } :=
      same.plain_registered plain
    exact same.noteLookup.command (same.directory.noteLookup.updateNode record)

/-! ## Dispatch -/

theorem SameRecords.attempt (same : g.SameRecords g') {course : Course α}
    (admissible : course.Admissible) (node : Node) :
    ∃ result b b', course.attempt node g.directory = (result, b) ∧
      course.attempt node g'.directory = (result, b') ∧
        SameRecords { g with directory := b } { g' with directory := b' } := by
  have events := admissible.events node g.directory
  obtain ⟨records⟩ := same
  refine ⟨_, _, _, rfl, ?_, ⟨records.afterAll events⟩⟩
  rw [Course.attempt, ← admissible.blind node _ _ records]

/-- Both dispatches attempt the same nodes in the same order and end alike. -/
theorem SameRecords.dispatchRounds (same : g.SameRecords g') (platform : String)
    {course : Course α} (admissible : course.Admissible) (rounds : Nat) (tried : List String)
    (last : Option GatewayError) :
    Agree (Gateway.dispatchRounds platform course.attempt rounds tried last g)
      (Gateway.dispatchRounds platform course.attempt rounds tried last g') := by
  induction rounds generalizing tried last g g' with
  | zero => exact ⟨rfl, same⟩
  | succ rounds ih =>
      obtain ⟨chosen, g₁, g₁', hs, hs', selected⟩ :=
        (same.selectExcluding tried platform).exists_eq
      cases chosen with
      | error e =>
          rw [dispatchRounds_of_refused hs, dispatchRounds_of_refused hs']
          exact ⟨rfl, selected⟩
      | ok node =>
          -- An attempt may remove the node; then the copy is written back, so it has to be plain.
          have listed := (mem_of_selectExcluding (congrArg Prod.fst hs)).1
          have plain := same.directory.plain_of_mem listed
          obtain ⟨result, b, b', ha, ha', attempted⟩ := selected.attempt admissible node
          cases result with
          | ok value =>
              rw [dispatchRounds_of_success hs ha, dispatchRounds_of_success hs' ha']
              exact ⟨rfl, (attempted.recordSuccess plain).2⟩
          | error reason =>
              rw [dispatchRounds_of_failure hs ha, dispatchRounds_of_failure hs' ha']
              obtain ⟨report_eq, after⟩ := ih (attempted.recordFailure plain).2
                (node.hostname :: tried) (some (.nodeOperation node.hostname reason))
              refine ⟨?_, after⟩
              dsimp only
              rw [report_eq]

/-! ## Client resources -/

theorem SameRecords.resources (same : g.SameRecords g') (jid : String) :
    (g.resources jid).1.Perm (g'.resources jid).1 ∧
      (g.resources jid).2.SameRecords (g'.resources jid).2 :=
  ⟨same.directory.clientResources _, same.noteLookup⟩

theorem SameRecords.pickResource (same : g.SameRecords g') (jid : String) :
    Agree (g.pickResource jid) (g'.pickResource jid) := by
  obtain ⟨bound, after⟩ := same.resources (RawJid.bare jid)
  have sorted := Selection.mergeSort_eq_of_perm bound
  have vacant : (g.resources (RawJid.bare jid)).1.isEmpty =
      (g'.resources (RawJid.bare jid)).1.isEmpty := by
    rw [Bool.eq_iff_iff, List.isEmpty_iff_length_eq_zero, bound.length_eq,
      List.isEmpty_iff_length_eq_zero]
  obtain ⟨records⟩ := same
  unfold Gateway.pickResource
  dsimp only
  rw [← sorted, ← vacant]
  split
  · exact ⟨rfl, after⟩
  · exact ⟨rfl, ⟨records.noteLookup⟩⟩

/-! ## Controls -/

theorem SameRecords.blacklist (same : g.SameRecords g') (platform hostname : String)
    (blacklisted : Bool) :
    Agree (g.blacklist platform hostname blacklisted)
      (g'.blacklist platform hostname blacklisted) := by
  have same_read := same.directory.findNode hostname
  cases read : Directory.findNode hostname g.directory with
  | error e =>
      rw [read] at same_read
      rw [blacklist_of_unread read, blacklist_of_unread same_read.symm]
      exact ⟨rfl, same.noteLookup⟩
  | ok found =>
      rw [read] at same_read
      cases serves : found.filter (·.serves platform) with
      | none =>
          rw [blacklist_of_elsewhere read serves, blacklist_of_elsewhere same_read.symm serves]
          exact ⟨rfl, same.noteLookup⟩
      | some node =>
          have own := same.directory.plain (Backend.getNode?_of_filter read serves)
          have plain : (withFlag blacklisted node).HasPlainNames := own
          obtain ⟨result, g₁, g₁', hw, hw', after⟩ :=
            (same.noteLookup.command (same.directory.noteLookup.updateNode plain)).exists_eq
          cases result with
          | ok answer =>
              rw [blacklist_of_written read serves hw,
                blacklist_of_written same_read.symm serves hw']
              exact ⟨rfl, after⟩
          | error e =>
              rw [blacklist_of_refused read serves hw,
                blacklist_of_refused same_read.symm serves hw']
              obtain ⟨records⟩ := after
              exact ⟨rfl, ⟨records⟩⟩

end Gateway

/-! ## Every action -/

/-- The outcomes of an action agree: the answer to an operation of the directory and the resources
of a client may differ in the order of a list, and nothing else may differ. -/
def Action.Agrees (action : Action) (left right : Except GatewayError Outcome) : Prop :=
  match action with
  | .directory op =>
    ∃ answer answer', op.Agrees answer answer' ∧
      left = (answer.mapError .directory).map .answer ∧
      right = (answer'.mapError .directory).map .answer
  | .resources _ =>
    ∃ texts texts', texts.Perm texts' ∧ left = .ok (.answer (.texts texts)) ∧
      right = .ok (.answer (.texts texts'))
  | _ => left = right

def Action.Admissible : Action → Prop
  | .directory op => op.Admissible
  | .registerNode node | .recordFailure node | .recordSuccess node => node.HasPlainNames
  | .platformForClient jid => NoBareSlash jid
  | _ => True

namespace Gateway

theorem Agree.outcome {f : α → Outcome} {left right : Except GatewayError α × Gateway Backend}
    (agree : Agree left right) : Agree (Action.outcome f left) (Action.outcome f right) :=
  ⟨congrArg (Except.map f) agree.1, agree.2⟩

theorem Agree.always {f : α → Outcome} {left right : α × Gateway Backend}
    (agree : Agree left right) : Agree (Action.always f left) (Action.always f right) :=
  ⟨congrArg (Except.ok ∘ f) agree.1, agree.2⟩

/-- Every action has outcomes that agree and leaves the same records. -/
theorem SameRecords.perform (same : g.SameRecords g') {action : Action}
    (admissible : action.Admissible) :
    action.Agrees (action.perform g).1 (action.perform g').1 ∧
      (action.perform g).2.SameRecords (action.perform g').2 := by
  cases action with
  | directory op =>
      obtain ⟨records⟩ := same
      obtain ⟨agrees, after⟩ := records.run admissible
      exact ⟨⟨_, _, agrees, rfl, rfl⟩, ⟨after⟩⟩
  | registerNode node => exact Agree.outcome (same.registerNode admissible)
  | nodeForCall id => exact Agree.always (same.nodeForCall? id)
  | registerClient jid => exact Agree.outcome (same.registerClient jid)
  | resources jid =>
      obtain ⟨bound, after⟩ := same.resources jid
      exact ⟨⟨_, _, bound, rfl, rfl⟩, after⟩
  | platformForClient jid => exact Agree.always (same.platformForClient? admissible)
  | select platform => exact Agree.outcome (same.selectExcluding [] platform)
  | recordFailure node => exact Agree.outcome (same.recordFailure admissible)
  | recordSuccess node => exact Agree.outcome (same.recordSuccess admissible)
  | dispatch platform maxRetries script =>
      have routed := same.dispatchRounds platform (Script.admissible_course script)
        (maxRetries.toNat + 1) [] none
      rw [← Script.attempt_eq_course] at routed
      exact Agree.always routed
  | pickResource jid => exact Agree.always (same.pickResource jid)
  | blacklist platform hostname blacklisted =>
      exact Agree.outcome (same.blacklist platform hostname blacklisted)
  | ban jid | unban jid | isBanned jid | bannedJids | setMaxDialRetries retries | maxDialRetries
  | failedBlacklistUpdates =>
      obtain ⟨records⟩ := same
      exact ⟨rfl, ⟨records⟩⟩

end Gateway

/-! ## Every turn -/

def Turn.Admissible : Turn → Prop
  | .act action => action.Admissible
  | .select _ _ => True
  | .dispatch _ _ course => course.Admissible
  | .event entry => entry.Admissible

/-- Both gateways answer a turn alike. Of an event only an operation of the directory is
answered. -/
def Turn.AnsweredAlike (left right : Gateway Backend) : Turn → Prop
  | .act action => action.Agrees (action.perform left).1 (action.perform right).1
  | .select tried platform =>
    (left.selectExcluding tried platform).1 = (right.selectExcluding tried platform).1
  | .dispatch platform maxRetries course =>
    (left.dispatch platform maxRetries course.attempt).1 =
      (right.dispatch platform maxRetries course.attempt).1
  | .event (.operation op) => op.Agrees (op.run left.directory).1 (op.run right.directory).1
  | .event _ => True

namespace Gateway

theorem SameRecords.turn (same : g.SameRecords g') {turn : Turn} (admissible : turn.Admissible) :
    turn.AnsweredAlike g g' ∧ (g.afterTurn turn).SameRecords (g'.afterTurn turn) := by
  cases turn with
  | act action => exact same.perform admissible
  | select tried platform => exact same.selectExcluding tried platform
  | dispatch platform maxRetries course =>
      exact same.dispatchRounds platform admissible (maxRetries.toNat + 1) [] none
  | event entry =>
      obtain ⟨records⟩ := same
      refine ⟨?_, ⟨records.after admissible⟩⟩
      cases entry with
      | operation op => exact (records.run admissible).1
      | _ => trivial

end Gateway

end Switchboard
