import Switchboard.Columns.Runtime
import Switchboard.Proofs.Directory.WriteBack
import Switchboard.Proofs.Gateway.Clients
import Switchboard.Proofs.Gateway.Dispatch

/-! # What a change of the blacklist flag answers

The answer tells whether the platform has the node. It is an error when the node cannot be
looked up, and then nothing is written. A node that was looked up can be written back with its
new flag, so a change is counted as failed only where writes are made to fail.
-/

namespace Switchboard.Gateway

open Memory (KeepsIndices)
open Replicated (Event)

variable {g : Gateway Backend} {platform hostname : String} {blacklisted : Bool}

/-- The gateway is the same, apart from the record that its directory was looked into. -/
def Untouched (g g' : Gateway Backend) : Prop :=
  g.directory.SameData g'.directory ∧ g' = { g with directory := g'.directory }

theorem untouched_noteLookup (g : Gateway Backend) : g.Untouched g.noteLookup :=
  ⟨g.directory.sameData_noteLookup, rfl⟩

structure Blacklists (platform hostname : String) (blacklisted : Bool) (g : Gateway Backend)
    (result : Except GatewayError Bool × Gateway Backend) : Prop where
  error_iff : (∃ e, result.1 = .error e) ↔ g.directory.failsReads = true
  false_iff : result.1 = .ok false ↔ g.directory.failsReads = false ∧
    ∀ node, Directory.findNode hostname g.directory = .ok (some node) → platform ∉ node.platforms
  untouched : result.1 ≠ .ok true → g.Untouched result.2
  /-- The node is found with its new flag and without failures, and nothing else changes. -/
  written : result.1 = .ok true → g.directory.failsWrites = false →
    result.2 = { g with directory := result.2.directory } ∧
      ∃ node, Directory.findNode hostname g.directory = .ok (some node) ∧
        platform ∈ node.platforms ∧
        g.directory.Rewrites hostname (withFlag blacklisted node) result.2.directory
  /-- The change is lost, and one more is counted as failed. -/
  counted : result.1 = .ok true → g.directory.failsWrites = true →
    g.directory.SameData result.2.directory ∧
      result.2 = { g with
        directory := result.2.directory
        controls := { g.controls with
          failedBlacklistUpdates := g.controls.failedBlacklistUpdates + 1 } }

theorem keepsIndices_withFlag (blacklisted : Bool) : KeepsIndices (withFlag blacklisted) :=
  ⟨fun _ => rfl, fun _ => rfl, fun _ => rfl⟩

theorem blacklists_of_unread {e : DirectoryError} (fails : g.directory.failsReads = true)
    (unread : Directory.findNode hostname g.directory = .error e) :
    Blacklists platform hostname blacklisted g (g.blacklist platform hostname blacklisted) := by
  rw [blacklist_of_unread unread]
  constructor
  case error_iff => exact ⟨fun _ => fails, fun _ => ⟨_, rfl⟩⟩
  case false_iff =>
    refine ⟨nofun, ?_⟩
    rintro ⟨reads, -⟩
    cases fails.symm.trans reads
  case untouched => exact fun _ => g.untouched_noteLookup
  case written => exact nofun
  case counted => exact nofun

theorem blacklists_of_elsewhere {found : Option Node} (reads : g.directory.failsReads = false)
    (read : Directory.findNode hostname g.directory = .ok found)
    (elsewhere : found.filter (·.serves platform) = none) :
    Blacklists platform hostname blacklisted g (g.blacklist platform hostname blacklisted) := by
  rw [blacklist_of_elsewhere read elsewhere]
  constructor
  case error_iff =>
    refine ⟨nofun, fun fails => ?_⟩
    cases fails.symm.trans reads
  case false_iff =>
    refine ⟨fun _ => ⟨reads, fun node hnode listed => ?_⟩, fun _ => rfl⟩
    obtain rfl := Except.ok.inj (read.symm.trans hnode)
    exact Option.filter_eq_none_iff.1 elsewhere node rfl (Std.ExtTreeSet.contains_iff_mem.2 listed)
  case untouched => exact fun _ => g.untouched_noteLookup
  case written => exact nofun
  case counted => exact nofun

section Found

variable {node : Node} (reads : g.directory.failsReads = false)
  (found : Directory.findNode hostname g.directory = .ok (some node))
  (listed : platform ∈ node.platforms)
include reads found listed

/-- The node is on the platform, so it is left to say what becomes of its record. -/
theorem Blacklists.of_found {result : Except GatewayError Bool × Gateway Backend}
    (answered : result.1 = .ok true)
    (written : g.directory.failsWrites = false →
      result.2 = { g with directory := result.2.directory } ∧
        g.directory.Rewrites hostname (withFlag blacklisted node) result.2.directory)
    (counted : g.directory.failsWrites = true → g.directory.SameData result.2.directory ∧
      result.2 = { g with
        directory := result.2.directory
        controls := { g.controls with
          failedBlacklistUpdates := g.controls.failedBlacklistUpdates + 1 } }) :
    Blacklists platform hostname blacklisted g result := by
  constructor
  case error_iff =>
    constructor
    · rintro ⟨e, refused⟩
      cases answered.symm.trans refused
    · intro fails
      cases fails.symm.trans reads
  case false_iff =>
    constructor
    · intro missed
      cases answered.symm.trans missed
    · rintro ⟨-, elsewhere⟩
      exact absurd listed (elsewhere node found)
  case untouched => exact fun missed => absurd answered missed
  case written =>
    intro _ writes
    obtain ⟨kept, rewrites⟩ := written writes
    exact ⟨kept, node, found, listed, rewrites⟩
  case counted => exact fun _ => counted

theorem blacklists_of_found (holds : ∃ nodes, g.directory.Holds nodes) :
    Blacklists platform hostname blacklisted g (g.blacklist platform hostname blacklisted) := by
  obtain ⟨nodes, holds⟩ := holds
  have serves : (some node).filter (·.serves platform) = some node :=
    Option.filter_some_pos (Std.ExtTreeSet.contains_iff_mem.2 listed)
  cases fails : g.directory.failsWrites with
  | false =>
      obtain ⟨b', updated, rewrites⟩ := Backend.rewrites_updateNode
        (keepsIndices_withFlag blacklisted) holds reads found fails
      have written : g.noteLookup.command (Directory.updateNode (withFlag blacklisted node)) =
          (.ok (withFlag blacklisted node), { g with directory := b' }) := by
        rw [command, noteLookup, updated]
        rfl
      rw [blacklist_of_written found serves written]
      exact .of_found reads found listed rfl (fun _ => ⟨rfl, rewrites⟩) fun refused => by
        cases fails.symm.trans refused
  | true =>
      let op := Operation.updateNode (withFlag blacklisted node)
      obtain ⟨e, unwritten⟩ := holds.noteLookup.updateNode_of_failsWrites
        ((Backend.failsWrites_noteLookup _).trans fails) (withFlag blacklisted node)
      have refused : (op.run (Directory.noteLookup g.directory)).1 = .error e :=
        congrArg (Except.map (Answer.node ∘ some)) unwritten
      have same := Backend.sameData_of_refused refused
      have command : g.noteLookup.command (Directory.updateNode (withFlag blacklisted node)) =
          (.error (.directory e), { g with
            directory := (op.run (Directory.noteLookup g.directory)).2 }) :=
        Prod.ext (congrArg (Except.mapError GatewayError.directory) unwritten) rfl
      rw [blacklist_of_refused found serves command]
      exact .of_found reads found listed rfl (fun writes => by cases fails.symm.trans writes)
        fun _ => ⟨same, rfl⟩

end Found

theorem blacklists_blacklist (holds : ∃ nodes, g.directory.Holds nodes)
    (platform hostname : String) (blacklisted : Bool) :
    Blacklists platform hostname blacklisted g (g.blacklist platform hostname blacklisted) := by
  cases reads : g.directory.failsReads with
  | true =>
      obtain ⟨nodes, holds⟩ := holds
      obtain ⟨e, unread⟩ := holds.findNode_of_failsReads reads hostname
      exact blacklists_of_unread reads unread
  | false =>
      obtain ⟨found, read⟩ : ∃ found, Directory.findNode hostname g.directory = .ok found := by
        obtain ⟨nodes, holds⟩ := holds
        exact ⟨_, holds.findNode_eq reads hostname⟩
      cases elsewhere : found.filter (·.serves platform) with
      | none => exact blacklists_of_elsewhere reads read elsewhere
      | some node =>
          obtain ⟨rfl, serves⟩ := Option.filter_eq_some_iff.1 elsewhere
          exact blacklists_of_found reads read (Std.ExtTreeSet.contains_iff_mem.1 serves) holds

/-! ## The count of changes that were lost -/

theorem controls_registerNode (g : Gateway Backend) (node : Node) :
    (g.registerNode node).2.controls = g.controls := by
  unfold registerNode look
  dsimp only
  split <;> rfl

theorem controls_registerClient (g : Gateway Backend) (text : String) :
    (g.registerClient text).2.controls = g.controls := by
  unfold registerClient
  split <;> rfl

theorem controls_pickResource (g : Gateway Backend) (jid : String) :
    (g.pickResource jid).2.controls = g.controls := by
  unfold pickResource resources look
  dsimp only
  split <;> rfl

/-- Only a change of a blacklist flag can be counted. -/
theorem failedBlacklistUpdates_perform (g : Gateway Backend) (action : Action) :
    (action.perform g).2.controls.failedBlacklistUpdates = g.controls.failedBlacklistUpdates ∨
      ∃ platform hostname blacklisted, action = .blacklist platform hostname blacklisted := by
  have kept {g' : Gateway Backend} (same : g'.controls = g.controls) :
      g'.controls.failedBlacklistUpdates = g.controls.failedBlacklistUpdates := by rw [same]
  cases action with
  | blacklist platform hostname blacklisted => exact .inr ⟨platform, hostname, blacklisted, rfl⟩
  | select name => exact .inl (kept (sameSettings_selectExcluding g [] name).controls)
  | dispatch name maxRetries script =>
      exact .inl (kept (sameSettings_dispatchRounds (maxRetries.toNat + 1) [] none).controls)
  | registerNode node => exact .inl (kept (controls_registerNode g node))
  | registerClient jid => exact .inl (kept (controls_registerClient g jid))
  | recordSuccess node => exact .inl (kept (sameSettings_recordSuccess g node).controls)
  | pickResource jid => exact .inl (kept (controls_pickResource g jid))
  | directory | nodeForCall | resources | platformForClient | recordFailure | ban | unban
  | isBanned | bannedJids | setMaxDialRetries | maxDialRetries | failedBlacklistUpdates =>
      exact .inl rfl

theorem failedBlacklistUpdates_afterTurn (g : Gateway Backend) (turn : Turn) :
    (g.afterTurn turn).controls.failedBlacklistUpdates = g.controls.failedBlacklistUpdates ∨
      ∃ platform hostname blacklisted,
        turn = .act (.blacklist platform hostname blacklisted) := by
  cases turn with
  | act action =>
      refine (failedBlacklistUpdates_perform g action).imp_right ?_
      rintro ⟨platform, hostname, blacklisted, rfl⟩
      exact ⟨platform, hostname, blacklisted, rfl⟩
  | select tried name =>
      exact .inl (congrArg Controls.failedBlacklistUpdates
        (sameSettings_selectExcluding g tried name).controls)
  | dispatch name maxRetries course =>
      exact .inl (congrArg Controls.failedBlacklistUpdates
        (sameSettings_dispatchRounds (maxRetries.toNat + 1) [] none).controls)
  | event => exact .inl rfl

/-- Where writes work nothing is counted. -/
theorem Blacklists.controls_eq {result : Except GatewayError Bool × Gateway Backend}
    (ends : Blacklists platform hostname blacklisted g result)
    (writes : g.directory.failsWrites = false) : result.2.controls = g.controls := by
  by_cases answered : result.1 = .ok true
  · rw [(ends.written answered writes).1]
  · rw [(ends.untouched answered).2]

theorem Blacklists.toNat_le {result : Except GatewayError Bool × Gateway Backend}
    (ends : Blacklists platform hostname blacklisted g result) :
    result.2.controls.failedBlacklistUpdates.toNat ≤
      g.controls.failedBlacklistUpdates.toNat + 1 := by
  by_cases answered : result.1 = .ok true
  · cases fails : g.directory.failsWrites with
    | false =>
        rw [ends.controls_eq fails]
        exact Nat.le_succ _
    | true =>
        rw [(ends.counted answered fails).2, UInt64.toNat_add]
        exact Nat.mod_le _ _
  · rw [(ends.untouched answered).2]
    exact Nat.le_succ _

section History

variable (holds : ∃ nodes, g.directory.Holds nodes)
include holds

theorem toNat_afterTurn_le (turn : Turn) :
    (g.afterTurn turn).controls.failedBlacklistUpdates.toNat ≤
      g.controls.failedBlacklistUpdates.toNat + 1 := by
  rcases failedBlacklistUpdates_afterTurn g turn with same | ⟨platform, hostname, blacklisted, rfl⟩
  · rw [same]
    exact Nat.le_succ _
  · exact (blacklists_blacklist holds platform hostname blacklisted).toNat_le

/-- No more changes are counted than a history has entries. -/
theorem toNat_afterTurns_le (turns : List Turn) :
    (g.afterTurns turns).controls.failedBlacklistUpdates.toNat ≤
      g.controls.failedBlacklistUpdates.toNat + turns.length := by
  induction turns generalizing g with
  | nil => exact Nat.le_refl _
  | cons turn rest ih =>
      have first := toNat_afterTurn_le holds turn
      have later := ih (Backend.preserved_holds.afterTurn holds turn.obeys_anything)
      rw [List.length_cons]
      change ((g.afterTurn turn).afterTurns rest).controls.failedBlacklistUpdates.toNat ≤ _
      omega

theorem failedBlacklistUpdates_of_writes (writes : g.directory.failsWrites = false)
    (turn : Turn) : (g.afterTurn turn).controls.failedBlacklistUpdates =
      g.controls.failedBlacklistUpdates := by
  rcases failedBlacklistUpdates_afterTurn g turn with same | ⟨platform, hostname, blacklisted, rfl⟩
  · exact same
  · exact congrArg Controls.failedBlacklistUpdates
      ((blacklists_blacklist holds platform hostname blacklisted).controls_eq writes)

/-- Where nothing is made to fail no change is lost. -/
theorem failedBlacklistUpdates_of_quiet (inOrder : g.directory.InOrder) {turns : List Turn}
    (quiet : ∀ turn ∈ turns, turn.Obeys Event.Quiet) :
    (g.afterTurns turns).controls.failedBlacklistUpdates = g.controls.failedBlacklistUpdates := by
  induction turns generalizing g with
  | nil => rfl
  | cons turn rest ih =>
      obtain ⟨first, later⟩ := List.forall_mem_cons.1 quiet
      have holds' := Backend.preserved_holds.afterTurn holds turn.obeys_anything
      have inOrder' := Backend.preserved_inOrder.afterTurn inOrder first
      exact (ih holds' inOrder' later).trans
        (failedBlacklistUpdates_of_writes holds inOrder.failsWrites turn)

end History

/-- After every history, whichever reads and writes were made to fail in it, a change of a
blacklist flag is refused exactly when reads fail, misses exactly when the platform is not known
to have the node, and else is written or, where writes fail, counted as lost. A gateway on which
nothing was made to fail has lost none. -/
theorem blacklist_outcomes {start : Gateway Backend} (fresh : start.directory.Fresh)
    (unused : start.controls.failedBlacklistUpdates = 0) (turns : List Turn)
    (platform hostname : String) (blacklisted : Bool) :
    let g := start.afterTurns turns
    let result := g.blacklist platform hostname blacklisted
    Blacklists platform hostname blacklisted g result ∧
      (result.1 = .ok true → g.directory.failsWrites = true → turns.length + 1 < 2 ^ 64 →
        result.2.controls.failedBlacklistUpdates.toNat =
          g.controls.failedBlacklistUpdates.toNat + 1) ∧
      (start.directory.Unfailing → (∀ turn ∈ turns, turn.Obeys Event.Quiet) →
        g.controls.failedBlacklistUpdates = 0) := by
  intro g result
  have holds := fresh.holds_afterTurns turns
  have ends := blacklists_blacklist holds platform hostname blacklisted
  refine ⟨ends, fun answered fails few => ?_, fun unfailing quiet => ?_⟩
  · -- The count is far from starting over, so adding to it adds to its value.
    have bound := toNat_afterTurns_le ⟨∅, fresh.holds⟩ turns
    rw [unused, UInt64.toNat_zero, Nat.zero_add] at bound
    rw [(ends.counted answered fails).2, UInt64.toNat_add, UInt64.toNat_one]
    exact Nat.mod_eq_of_lt (by omega)
  · rw [← unused]
    exact failedBlacklistUpdates_of_quiet ⟨∅, fresh.holds⟩ (fresh.inOrder unfailing) quiet

/-- Two changes are lost while writes fail; without failures the same change is written. -/
theorem blacklist_outcomes_around_failing_writes :
    let cluster := (Replicated.openOn {} {}).2
    let start : Gateway Backend := { directory := .replicated ⟨cluster, "rayo"⟩ }
    let node : Node := ⟨"media1.example", "10.0.0.1", .ofList ["staging"], 1, 1, 0, false⟩
    let register : Turn := .act (.registerNode node)
    let lost : Turn := .act (.blacklist "staging" node.hostname true)
    let failing := start.afterTurns [register, .event (.failWrites true), lost]
    let refused := failing.blacklist "staging" node.hostname true
    let working := start.afterTurns [register]
    let written := working.blacklist "staging" node.hostname true
    refused.1 = .ok true ∧ refused.2.controls.failedBlacklistUpdates.toNat = 2 ∧
      written.1 = .ok true ∧ written.2.controls.failedBlacklistUpdates = 0 ∧
      Directory.findNode node.hostname written.2.directory =
        .ok (some (withFlag true node)) := by
  intro cluster start node register lost failing refused working written
  have opened : Replicated.openOn {} {} = (.ok ⟨cluster, "rayo"⟩, cluster) := by decide +kernel
  have fresh : start.directory.Fresh := .replicated rfl opened
  have unfailing : start.directory.Unfailing := ⟨by decide +kernel, by decide +kernel⟩
  have quiet : ∀ turn ∈ [register], turn.Obeys Event.Quiet := by simp [register, Turn.Obeys]
  have hfailing : start.afterTurns [register, .event (.failWrites true), lost] = failing := rfl
  have hrefused : failing.blacklist "staging" node.hostname true = refused := rfl
  have hworking : start.afterTurns [register] = working := rfl
  have hwritten : working.blacklist "staging" node.hostname true = written := rfl
  have answered : refused.1 = .ok true := by decide +kernel
  have fails : failing.directory.failsWrites = true := by decide +kernel
  have once : failing.controls.failedBlacklistUpdates.toNat = 1 := by decide +kernel
  have answered' : written.1 = .ok true := by decide +kernel
  have works : working.directory.failsWrites = false := by decide +kernel
  have known : Directory.findNode node.hostname working.directory = .ok (some node) := by
    decide +kernel
  obtain ⟨-, counted, -⟩ := blacklist_outcomes fresh rfl
    [register, .event (.failWrites true), lost] "staging" node.hostname true
  obtain ⟨ends', -, uncounted⟩ :=
    blacklist_outcomes fresh rfl [register] "staging" node.hostname true
  rw [hfailing, hrefused] at counted
  rw [hworking] at uncounted
  rw [hworking, hwritten] at ends'
  have twice := counted answered fails (by decide)
  rw [once] at twice
  have unlost := uncounted unfailing quiet
  rw [← ends'.controls_eq works] at unlost
  obtain ⟨-, found, known', -, rewrites⟩ := ends'.written answered' works
  rw [known, Except.ok.injEq, Option.some.injEq] at known'
  rw [← known'] at rewrites
  exact ⟨answered, twice, answered', unlost, rewrites.written⟩

end Switchboard.Gateway
