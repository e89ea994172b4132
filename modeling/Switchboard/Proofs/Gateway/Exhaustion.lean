import Mathlib.Data.List.Perm.Subperm
import Switchboard.Proofs.Gateway.Dispatch

/-! # Dispatches that try every node

As long as attempts fail and leave the platform alone, a node that was not tried yet stays
listed with the record that it had at the start. A dispatch with enough attempts then tries
every available node once, by priority.
-/

namespace Switchboard

open Switchboard.Records

theorem Backend.Holds.hostname_registered {b : Backend} {nodes : NodeMap} (holds : b.Holds nodes)
    (node : Node) : (Gateway.registered node b).hostname = node.hostname := by
  unfold Gateway.registered
  cases found : Directory.getNode? node.hostname b with
  | none => rfl
  | some shown => exact holds.hostname_of_getNode? found

namespace Gateway

/-! ## Steady dispatches -/

section Steady

variable {σ α : Type} [Directory σ] {g : Gateway σ} {platform : String} {attempt : Attempt σ α}

def availableNodes (g : Gateway σ) (platform : String) : List Node :=
  (Directory.nodesForPlatform platform g.directory).filter (·.isAvailable g.maxConsecutiveErrors)

/-- All attempts fail, and none of them changes the nodes of the platform. -/
structure Steady (platform : String) (attempt : Attempt σ α) (g : Gateway σ)
    (attempts : List Node) : Prop where
  failing : ∀ outcome ∈ g.outcomes platform attempt attempts, ∃ reason, outcome = .error reason
  unchanging : ∀ (made : Nat) (node : Node), attempts[made]? = some node →
    (Directory.nodesForPlatform platform (attempt node (g.met platform attempt [] made)).2).Perm
      (Directory.nodesForPlatform platform (g.met platform attempt [] made))

theorem Steady.failed {attempts : List Node} (steady : Steady platform attempt g attempts)
    {made : Nat} {node : Node} (tried : attempts[made]? = some node) :
    ∃ reason, (attempt node (g.met platform attempt [] made)).1 = .error reason := by
  obtain ⟨inside, rfl⟩ := List.getElem?_eq_some_iff.1 tried
  exact steady.failing _ (List.mem_mapIdx.2 ⟨made, inside, rfl⟩)

end Steady

/-! ## Nodes that were not tried -/

variable {α : Type} {g : Gateway Backend} {platform : String} {course : Course α} {rounds : Nat}
  {report : Dispatched α}

/-- A failure that is recorded leaves the other nodes on their platforms. -/
theorem mem_nodesForPlatform_recordFailure (holds : ∃ nodes, g.directory.Holds nodes)
    {tried node : Node} (other : node.hostname ≠ tried.hostname) :
    node ∈ Directory.nodesForPlatform platform (g.recordFailure tried).2.directory ↔
      node ∈ Directory.nodesForPlatform platform g.directory := by
  obtain ⟨nodes, holds⟩ := holds
  have written : node.hostname ≠ (registered tried g.directory).withFailure.hostname := by
    change node.hostname ≠ (registered tried g.directory).hostname
    rwa [holds.hostname_registered]
  rw [directory_recordFailure, holds.noteLookup.mem_nodesForPlatform_updateNode written,
    Backend.nodesForPlatform_noteLookup]

theorem holds_attempted (holds : ∃ nodes, g.directory.Holds nodes) (platform : String)
    (course : Course α) (made : Nat) (node : Node) :
    ∃ nodes, (course.attempt node (g.met platform course.attempt [] made)).2.Holds nodes := by
  have anything (node : Node) (b : Backend) : ∀ event ∈ (course node b).1, True :=
    fun _ _ => trivial
  have reached := Backend.preserved_holds.dispatchRounds platform anything made [] none holds
  exact Backend.preserved_holds.afterAll (Backend.preserved_holds.noteLookup reached)
    (anything node _)

/-- The nodes that were not tried yet are listed as they were at the start. -/
theorem mem_nodesForPlatform_afterAttempts (holds : ∃ nodes, g.directory.Holds nodes)
    (proceeds : Proceeds platform course.attempt rounds [] none g report)
    (steady : Steady platform course.attempt g report.attempts) {made : Nat}
    (within : made ≤ report.attempts.length) {node : Node}
    (untried : node.hostname ∉ (report.attempts.take made).map (·.hostname)) :
    node ∈ Directory.nodesForPlatform platform
        (g.afterAttempts platform course.attempt [] made).directory ↔
      node ∈ Directory.nodesForPlatform platform g.directory := by
  induction made with
  | zero => rfl
  | succ made ih =>
      have tried := List.getElem?_eq_getElem within
      rw [List.take_succ_eq_append_getElem within, List.map_append, List.mem_append, not_or]
        at untried
      obtain ⟨earlier, now⟩ := untried
      have other : node.hostname ≠ report.attempts[made].hostname := by simpa using now
      obtain ⟨reason, failed⟩ := steady.failed tried
      rw [proceeds.next made _ reason tried failed,
        mem_nodesForPlatform_recordFailure (holds_attempted holds platform course made _) other,
        (steady.unchanging made _ tried).mem_iff, met, Backend.nodesForPlatform_noteLookup]
      exact ih (Nat.le_of_succ_le within) earlier

/-- A node that was not tried yet may be tried when it was available at the start. -/
theorem mayTry_afterAttempts_iff (holds : ∃ nodes, g.directory.Holds nodes)
    (proceeds : Proceeds platform course.attempt rounds [] none g report)
    (steady : Steady platform course.attempt g report.attempts) {made : Nat}
    (within : made ≤ report.attempts.length) {node : Node}
    (untried : node.hostname ∉ (report.attempts.take made).map (·.hostname)) :
    (g.afterAttempts platform course.attempt [] made).MayTry platform
        ((report.attempts.take made).map (·.hostname)) node ↔
      node ∈ g.availableNodes platform := by
  have listed := mem_nodesForPlatform_afterAttempts holds proceeds steady within untried
  have limit : (g.afterAttempts platform course.attempt [] made).maxConsecutiveErrors =
      g.maxConsecutiveErrors := (sameSettings_dispatchRounds made [] none).limit
  rw [availableNodes, List.mem_filter, ← listed, ← limit]
  exact ⟨fun h => ⟨h.listed, h.available⟩, fun ⟨h, h'⟩ => ⟨h, h', untried⟩⟩

/-! ## Every node once -/

theorem mem_availableNodes_of_attempt (holds : ∃ nodes, g.directory.Holds nodes)
    (proceeds : Proceeds platform course.attempt rounds [] none g report)
    (steady : Steady platform course.attempt g report.attempts) {node : Node}
    (attempted : node ∈ report.attempts) : node ∈ g.availableNodes platform := by
  obtain ⟨made, inside, rfl⟩ := List.getElem_of_mem attempted
  have free := (proceeds.best (List.getElem?_eq_getElem inside)).1
  exact (mayTry_afterAttempts_iff holds proceeds steady inside.le free.untried).1 free

/-- The nodes come by priority, since a later one could have been tried before. -/
theorem priorities_of_steady (holds : ∃ nodes, g.directory.Holds nodes)
    (proceeds : Proceeds platform course.attempt rounds [] none g report)
    (steady : Steady platform course.attempt g report.attempts) :
    report.attempts.Pairwise fun earlier later => earlier.priority ≤ later.priority := by
  rw [List.pairwise_iff_getElem]
  intro earlier later inside inside' before
  have available := mem_availableNodes_of_attempt holds proceeds steady
    (List.getElem_mem inside')
  have untried : report.attempts[later].hostname ∉
      (report.attempts.take earlier).map (·.hostname) := by
    refine mt ?_ (proceeds.best (List.getElem?_eq_getElem inside')).1.untried
    exact fun h => (List.take_prefix_take_left before.le).sublist.map _ |>.subset h
  exact (proceeds.best (List.getElem?_eq_getElem inside)).2 _
    ((mayTry_afterAttempts_iff holds proceeds steady inside.le untried).2 available)

/-- A dispatch that fails throughout has tried every available node, if it had attempts enough. -/
theorem perm_availableNodes (holds : ∃ nodes, g.directory.Holds nodes)
    (proceeds : Proceeds platform course.attempt rounds [] none g report)
    (steady : Steady platform course.attempt g report.attempts)
    (enough : (g.availableNodes platform).length ≤ rounds) :
    report.attempts.Perm (g.availableNodes platform) := by
  have once := proceeds.distinct.of_map
  have subset : report.attempts ⊆ g.availableNodes platform :=
    fun _ => mem_availableNodes_of_attempt holds proceeds steady
  have within := List.subperm_of_subset once subset
  obtain ⟨e, refused⟩ : ∃ e, report.result = .error e := by
    rcases proceeds.result_cases with ⟨-, result⟩ | ⟨node, outcome, -, ended, result⟩
    · exact ⟨_, result⟩
    · obtain ⟨reason, rfl⟩ := steady.failing _ (List.mem_of_getLast? ended)
      exact ⟨_, result⟩
  rcases proceeds.stopped e refused with used | left
  · exact within.perm_of_length_le (used ▸ enough)
  · refine within.antisymm (List.subperm_of_subset ?_ fun node available => ?_)
    · obtain ⟨nodes, holds⟩ := holds
      exact (holds.nodup_nodesForPlatform platform).filter _
    · by_contra missed
      -- A node that was missed shares its hostname with no attempt, so it is left.
      have untried : node.hostname ∉ report.attempts.map (·.hostname) := by
        intro tried
        obtain ⟨other, attempted, same⟩ := List.mem_map.1 tried
        obtain ⟨nodes, holds⟩ := holds
        have listed := (List.mem_filter.1 available).1
        have listed' := (List.mem_filter.1 (subset attempted)).1
        exact missed (holds.eq_of_mem_nodesForPlatform listed' listed same ▸ attempted)
      have whole := List.take_length (l := report.attempts)
      rw [← whole] at untried
      have free := (mayTry_afterAttempts_iff holds proceeds steady le_rfl untried).2 available
      rw [whole] at free
      exact left node (mayTry_triedAfter_nil.2 free)

/-- A dispatch tries the best node that is left until it succeeds, its attempts are used up or no
node is left, and answers as its last attempt ended. When all attempts fail without a change on
the platform, and there are enough of them, every available node is tried once, by priority. -/
theorem dispatch_tries_best_first {α : Type} (platform : String) (maxRetries : UInt32) :
    (∀ (σ : Type) [Directory σ] (g : Gateway σ) (attempt : Attempt σ α),
      Disciplined platform maxRetries attempt g (g.dispatch platform maxRetries attempt).1) ∧
    ∀ (start : Gateway Backend) (turns : List Turn) (course : Course α), start.directory.Fresh →
      let g := start.afterTurns turns
      let attempts := (g.dispatch platform maxRetries course.attempt).1.attempts
      Steady platform course.attempt g attempts →
        (g.availableNodes platform).length ≤ maxRetries.toNat + 1 →
          attempts.Perm (g.availableNodes platform) ∧
            attempts.Pairwise fun earlier later => earlier.priority ≤ later.priority := by
  constructor
  · intro σ _ g attempt
    exact (proceeds_dispatchRounds platform attempt _ [] none g).disciplined
  · intro start turns course fresh g attempts steady enough
    have holds := fresh.holds_afterTurns turns
    have proceeds := proceeds_dispatchRounds platform course.attempt (maxRetries.toNat + 1) [] none
      g
    exact ⟨perm_availableNodes holds proceeds steady enough,
      priorities_of_steady holds proceeds steady⟩

/-- Three nodes are available and one is not; the least priority value comes first. -/
theorem three_nodes_tried_by_priority :
    let node (hostname ip : String) (priority : Int32) (blacklisted : Bool) : Turn :=
      .act (.registerNode ⟨hostname, ip, .ofList ["pstn"], priority, 1, 0, blacklisted⟩)
    let start : Gateway Backend := { directory := .memory {} }
    let turns : List Turn := [node "a" "10.0.0.1" 3 false, node "b" "10.0.0.2" 1 false,
      node "c" "10.0.0.3" 0 true, node "d" "10.0.0.4" 2 false]
    let g := start.afterTurns turns
    let course : Course Unit := fun _ _ => ([], .error "busy")
    let report := (g.dispatch "pstn" 2 course.attempt).1
    (report.attempts.map (·.hostname)).Nodup ∧
      report.attempts.Perm (g.availableNodes "pstn") ∧
      report.attempts.map (·.hostname) = ["b", "d", "a"] ∧
      report.result = .error (.nodeOperation "a" "busy") := by
  intro node start turns g course report
  have steady : Steady "pstn" course.attempt g report.attempts := by
    constructor
    · intro outcome houtcome
      obtain ⟨made, inside, rfl⟩ := List.mem_mapIdx.1 houtcome
      exact ⟨"busy", rfl⟩
    · exact fun _ _ _ => .refl _
  have enough : (g.availableNodes "pstn").length ≤ (2 : UInt32).toNat + 1 := by decide +kernel
  have order : report.attempts.map (·.hostname) = ["b", "d", "a"] := by decide +kernel
  have tried := dispatch_tries_best_first (α := Unit) "pstn" 2
  have disciplined := tried.1 Backend g course.attempt
  refine ⟨disciplined.distinct, (tried.2 start turns course .memory steady enough).1, order, ?_⟩
  refine (disciplined.failed "a" "busy").2 ⟨steady.failing, ?_, ?_⟩
  · rw [← List.getLast?_map]
    exact congrArg List.getLast? order
  · decide +kernel

end Gateway

end Switchboard
