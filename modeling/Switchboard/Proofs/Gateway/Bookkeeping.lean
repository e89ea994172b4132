import Switchboard.Proofs.Directory.Memory.Removals
import Switchboard.Proofs.Gateway.Dispatch
import Switchboard.Proofs.Gateway.Health

/-! # The bookkeeping of a dispatch

Attempts may take nodes out of the directory, the very node in hand included. What a dispatch
writes after an attempt is the record that is registered then, with its count of failures
changed. So a dispatch leaves the directory as the attempts make it but for the counts of the
nodes that were tried, and brings no removed node back.
-/

namespace Switchboard.Gateway

open Memory (Indexed KeepsIndices Edited)

variable {α : Type}

/-! ## Attempts that remove nodes -/

/-- What an attempt on a node does when it meets a directory: the hostnames of the nodes that it
removes, and how it ends. -/
abbrev Removing (α : Type) : Type := Node → Memory → List String × Except String α

def Removing.attempt (removing : Removing α) : Attempt Memory α := fun node m =>
  ((removing node m).2, m.removeNodes (removing node m).1)

structure Trial (α : Type) where
  node : Node
  /-- The hostnames that the attempt removed, as far as they were registered. -/
  removed : List String
  outcome : Except String α

def cleared (node : Node) : Node :=
  { node with consecutiveErrors := 0 }

namespace Trial

/-- The change of the record of the node that was tried. -/
def mark (trial : Trial α) : Node → Node :=
  match trial.outcome with
  | .error _ => Node.withFailure
  | .ok _ => cleared

/-- The directory after an attempt and the bookkeeping for it. -/
def book (m : Memory) (trial : Trial α) : Memory :=
  (m.removeNodes trial.removed).modifyNode trial.node.hostname trial.mark

/-- The change of a record by the bookkeeping for attempts in order. -/
def marks : List (Trial α) → String → Node → Node
  | [], _ => id
  | trial :: rest, hostname =>
    marks rest hostname ∘ if trial.node.hostname = hostname then trial.mark else id

end Trial

def Removing.trial (removing : Removing α) (node : Node) (m : Memory) : Trial α :=
  ⟨node, (removing node m).1, (removing node m).2⟩

/-- The attempts of a dispatch on these nodes, each with the directory that it met. -/
def trials (g : Gateway Memory) (platform : String) (removing : Removing α) (tried : List String)
    (nodes : List Node) : List (Trial α) :=
  nodes.mapIdx fun made node => removing.trial node (g.met platform removing.attempt tried made)

/-- There is one attempt on each node, in order. -/
theorem nodes_trials (g : Gateway Memory) (platform : String) (removing : Removing α)
    (tried : List String) (nodes : List Node) :
    (g.trials platform removing tried nodes).map (·.node) = nodes := by
  refine List.ext_getElem? fun made => ?_
  simp [trials, Removing.trial, Function.comp_def]

/-! ## One attempt -/

theorem keepsIndices_withFailure : KeepsIndices Node.withFailure :=
  ⟨fun _ => rfl, fun _ => rfl, fun _ => rfl⟩

theorem keepsIndices_cleared : KeepsIndices cleared :=
  ⟨fun _ => rfl, fun _ => rfl, fun _ => rfl⟩

theorem keepsIndices_mark (trial : Trial α) : KeepsIndices trial.mark := by
  unfold Trial.mark
  cases trial.outcome with
  | error reason => exact keepsIndices_withFailure
  | ok value => exact keepsIndices_cleared

theorem indexed_book {m : Memory} (indexed : m.Indexed) (trial : Trial α) :
    (trial.book m).Indexed :=
  (indexed.removeNodes trial.removed).modifyNode (keepsIndices_mark trial) _

section Attempt

variable (g : Gateway Memory) {m : Memory} (indexed : m.Indexed) (node : Node)
include indexed

theorem directory_recordFailure_eq :
    ({ g with directory := m }.recordFailure node).2.directory =
      m.modifyNode node.hostname Node.withFailure :=
  indexed.updateNode_eq_modifyNode keepsIndices_withFailure node

/-- A success clears the count of the registered record, and writes nothing when it is clear. -/
theorem directory_recordSuccess_eq :
    ({ g with directory := m }.recordSuccess node).2.directory =
      m.modifyNode node.hostname cleared := by
  rw [recordSuccess_eq]
  dsimp only
  split
  · next clear =>
      refine (Memory.modifyNode_of_fixed fun old known => ?_).symm
      have hold : registered node m = old := congrArg (·.getD node) known
      rw [hold] at clear
      rw [cleared, ← clear]
  · exact indexed.updateNode_eq_modifyNode keepsIndices_cleared node

end Attempt

/-! ## A whole dispatch -/

theorem book_of_failure {removing : Removing α} {node : Node} {m : Memory} {reason : String}
    (failed : (removing node m).2 = .error reason) :
    (removing.trial node m).book m =
      (m.removeNodes (removing node m).1).modifyNode node.hostname Node.withFailure := by
  simp only [Trial.book, Trial.mark, Removing.trial, failed]

theorem book_of_success {removing : Removing α} {node : Node} {m : Memory} {value : α}
    (succeeded : (removing node m).2 = .ok value) :
    (removing.trial node m).book m =
      (m.removeNodes (removing node m).1).modifyNode node.hostname cleared := by
  simp only [Trial.book, Trial.mark, Removing.trial, succeeded]

/-- A dispatch makes its attempts and keeps the books, and does nothing else to the directory. -/
theorem directory_dispatchRounds (platform : String) (removing : Removing α) (rounds : Nat)
    (tried : List String) (last : Option GatewayError) {g : Gateway Memory}
    (indexed : g.directory.Indexed) :
    (dispatchRounds platform removing.attempt rounds tried last g).2.directory =
      (g.trials platform removing tried
        (dispatchRounds platform removing.attempt rounds tried last g).1.attempts).foldl
          Trial.book g.directory := by
  induction rounds generalizing tried last g with
  | zero => rfl
  | succ rounds ih =>
      have hlooked : (g.selectExcluding tried platform).2.directory = g.directory :=
        directory_selectExcluding g tried platform
      rcases hs : g.selectExcluding tried platform with ⟨_ | node, g₁⟩
      · rw [hs] at hlooked
        rw [dispatchRounds_of_refused hs]
        exact hlooked
      · have hmet : g.met platform removing.attempt tried 0 = g₁.directory := met_zero hs
        have hsame : g₁.directory = g.directory := by rw [← hlooked, hs]
        have hleft : (g₁.directory.removeNodes (removing node g₁.directory).1).Indexed := by
          rw [hsame]
          exact indexed.removeNodes _
        cases houtcome : (removing node g₁.directory).2 with
        | ok value =>
            have hattempt : removing.attempt node g₁.directory =
                (.ok value, g₁.directory.removeNodes (removing node g₁.directory).1) :=
              Prod.ext houtcome rfl
            rw [dispatchRounds_of_success hs hattempt, trials, List.mapIdx_cons, List.mapIdx_nil,
              hmet, List.foldl_cons, List.foldl_nil, ← hsame, book_of_success houtcome]
            exact directory_recordSuccess_eq g₁ hleft node
        | error reason =>
            -- The other attempts are those of a dispatch that starts where this one was booked.
            have hattempt : removing.attempt node g₁.directory =
                (.error reason, g₁.directory.removeNodes (removing node g₁.directory).1) :=
              Prod.ext houtcome rfl
            have hbooked := directory_recordFailure_eq g₁ hleft node
            have hshifted := met_succ hs hattempt
            rw [dispatchRounds_of_failure hs hattempt]
            dsimp only
            rw [trials, List.mapIdx_cons, hmet, List.foldl_cons, ← hsame,
              book_of_failure houtcome, ← hbooked]
            simp only [hshifted]
            exact ih _ _ (by rw [hbooked]; exact hleft.modifyNode keepsIndices_withFailure _)

/-! ## What the books say -/

/-- Attempts and the bookkeeping for them take nodes out and change the counts of others. -/
theorem edited_foldl_book (trials : List (Trial α)) {m : Memory} (indexed : m.Indexed) :
    m.Edited (trials.flatMap (·.removed)) (Trial.marks trials) (trials.foldl Trial.book m) := by
  induction trials generalizing m with
  | nil => exact m.edited_refl
  | cons trial rest ih =>
      have hbooked := (indexed.edited_removeNodes trial.removed).trans
        (Memory.edited_modifyNode _ trial.node.hostname trial.mark)
      rw [List.append_nil] at hbooked
      exact hbooked.trans (ih (indexed_book indexed trial))

section Marks

variable {trials : List (Trial α)}

theorem marks_of_untried {hostname : String}
    (untried : ∀ trial ∈ trials, trial.node.hostname ≠ hostname) :
    Trial.marks trials hostname = id := by
  induction trials with
  | nil => rfl
  | cons trial rest ih =>
      obtain ⟨hfirst, hrest⟩ := List.forall_mem_cons.1 untried
      rw [Trial.marks, ih hrest, if_neg hfirst, Function.comp_id]

/-- The record of a node that was tried once is marked once. -/
theorem marks_of_tried (distinct : (trials.map (·.node.hostname)).Nodup) {trial : Trial α}
    (tried : trial ∈ trials) : Trial.marks trials trial.node.hostname = trial.mark := by
  induction trials with
  | nil => cases tried
  | cons first rest ih =>
      obtain ⟨hnew, hdistinct⟩ := List.nodup_cons.1 distinct
      have hother : ∀ later ∈ rest, later.node.hostname ≠ first.node.hostname :=
        fun later hlater hsame => hnew (List.mem_map.2 ⟨later, hlater, hsame⟩)
      rw [Trial.marks]
      rcases List.mem_cons.1 tried with rfl | hlater
      · rw [marks_of_untried hother, if_pos rfl, Function.id_comp]
      · rw [ih hdistinct hlater, if_neg (Ne.symm (hother trial hlater)), Function.comp_id]

end Marks

/-- The directory after a dispatch against the directory before it, by what the attempts did. -/
structure Booked (trials : List (Trial α)) (before after : Memory) : Prop where
  /-- The nodes that the attempts removed are gone, and no others. -/
  registered_iff : ∀ hostname, (Directory.getNode? hostname after).isSome ↔
    (Directory.getNode? hostname before).isSome ∧ ∀ trial ∈ trials, hostname ∉ trial.removed
  /-- A node that failed has one failure more, as far as it is registered, and is else the same. -/
  failed : ∀ trial ∈ trials, ∀ reason, trial.outcome = .error reason →
    ∀ node, Directory.getNode? trial.node.hostname after = some node →
      ∃ old, Directory.getNode? trial.node.hostname before = some old ∧
        node = { old with consecutiveErrors := node.consecutiveErrors } ∧
        node.consecutiveErrors.toNat = min (2 ^ 32 - 1) (old.consecutiveErrors.toNat + 1)
  /-- The node that succeeded has no failures and is else the same. -/
  succeeded : ∀ trial ∈ trials, ∀ value, trial.outcome = .ok value →
    ∀ node, Directory.getNode? trial.node.hostname after = some node →
      ∃ old, Directory.getNode? trial.node.hostname before = some old ∧
        node = { old with consecutiveErrors := 0 }
  others : ∀ hostname, (∀ trial ∈ trials, trial.node.hostname ≠ hostname) →
    ∀ node, Directory.getNode? hostname after = some node →
      Directory.getNode? hostname before = some node
  /-- The indices lose the removed nodes only, and keep the order of the others. -/
  ips : ∀ ip hostname : String, after.nodes.byIp[ip]? = some hostname ↔
    before.nodes.byIp[ip]? = some hostname ∧ ∀ trial ∈ trials, hostname ∉ trial.removed
  platforms : ∀ platform, after.nodes.byPlatform.values platform =
    (before.nodes.byPlatform.values platform).filter
      (· ∉ trials.flatMap (·.removed))
  calls : after.calls = before.calls
  applications : after.applications = before.applications

theorem booked_of_edited {trials : List (Trial α)} {before after : Memory}
    (distinct : (trials.map (·.node.hostname)).Nodup)
    (edited : before.Edited (trials.flatMap (·.removed)) (Trial.marks trials) after) :
    Booked trials before after := by
  have hgone (hostname : String) : hostname ∉ trials.flatMap (·.removed) ↔
      ∀ trial ∈ trials, hostname ∉ trial.removed := by simp
  have hfrom : ∀ hostname node, Directory.getNode? hostname after = some node →
      ∃ old, Directory.getNode? hostname before = some old ∧
        Trial.marks trials hostname old = node := by
    intro hostname node hnode
    have hrecord := (edited.records hostname).symm.trans hnode
    split at hrecord
    · cases hrecord
    · exact Option.map_eq_some_iff.1 hrecord
  constructor
  case registered_iff =>
    intro hostname
    have hrecord : Directory.getNode? hostname after = _ := edited.records hostname
    rw [hrecord, ← hgone]
    split
    · next hin => simp [hin]
    · next hout =>
        rw [Option.isSome_map]
        exact (and_iff_left hout).symm
  case failed =>
    intro trial htrial reason houtcome node hnode
    obtain ⟨old, hold, rfl⟩ := hfrom _ node hnode
    have hmark : trial.mark = Node.withFailure := by rw [Trial.mark, houtcome]
    rw [marks_of_tried distinct htrial, hmark]
    exact ⟨old, hold, rfl, old.toNat_withFailure⟩
  case succeeded =>
    intro trial htrial value houtcome node hnode
    obtain ⟨old, hold, rfl⟩ := hfrom _ node hnode
    have hmark : trial.mark = cleared := by rw [Trial.mark, houtcome]
    rw [marks_of_tried distinct htrial, hmark]
    exact ⟨old, hold, rfl⟩
  case others =>
    intro hostname huntried node hnode
    obtain ⟨old, hold, rfl⟩ := hfrom hostname node hnode
    rwa [marks_of_untried huntried]
  case ips =>
    intro ip hostname
    rw [edited.ips, hgone]
  case platforms => exact edited.platforms
  case calls => exact edited.calls
  case applications => exact edited.applications

/-- In every directory that a history leads to, a dispatch whose attempts remove nodes keeps the
books of its attempts, and does nothing else. -/
theorem dispatch_keeps_books (ops : List Operation) (g : Gateway Memory) (platform : String)
    (maxRetries : UInt32) (removing : Removing α) :
    let before := (Operation.runAll ({} : Memory) ops).2
    let start := { g with directory := before }
    let run := start.dispatch platform maxRetries removing.attempt
    Booked (start.trials platform removing [] run.1.attempts) before run.2.directory := by
  intro before start run
  have hindexed : before.Indexed := Memory.indexed_empty.runAll ops
  have hdistinct : (run.1.attempts.map (·.hostname)).Nodup :=
    (proceeds_dispatchRounds platform removing.attempt (maxRetries.toNat + 1) [] none
      start).distinct
  refine booked_of_edited ?_ ?_
  · rw [← nodes_trials start platform removing [] run.1.attempts, List.map_map] at hdistinct
    exact hdistinct
  · have hbooked : run.2.directory = _ :=
      directory_dispatchRounds platform removing (maxRetries.toNat + 1) [] none hindexed
    rw [hbooked]
    exact edited_foldl_book _ hindexed

/-- An attempt removes the node in hand and fails, the next one fails, and the last succeeds. -/
theorem books_of_removed_node :
    let node (hostname ip : String) (priority : Int32) (failures : UInt32) : Node :=
      ⟨hostname, ip, .ofList ["pstn"], priority, 1, failures, false⟩
    let ops : List Operation := [.storeNode (node "a" "10.0.0.1" 1 0),
      .storeNode (node "b" "10.0.0.2" 2 1), .storeNode (node "c" "10.0.0.3" 3 2)]
    let before := (Operation.runAll ({} : Memory) ops).2
    let g : Gateway Memory := { directory := before }
    let removing : Removing Unit := fun node _ =>
      if node.hostname = "a" then (["a"], .error "gone")
      else ([], if node.hostname = "b" then .error "busy" else .ok ())
    let run := g.dispatch "pstn" 2 removing.attempt
    let trials := g.trials "pstn" removing [] run.1.attempts
    Booked trials before run.2.directory ∧
      trials.map (fun trial => (trial.node.hostname, trial.removed)) =
        [("a", ["a"]), ("b", []), ("c", [])] ∧
      Directory.getNode? "a" run.2.directory = none ∧
      Directory.getNode? "b" run.2.directory = some (node "b" "10.0.0.2" 2 2) ∧
      Directory.getNode? "c" run.2.directory = some (node "c" "10.0.0.3" 3 0) := by
  intro node ops before g removing run trials
  refine ⟨dispatch_keeps_books ops g "pstn" 2 removing, ?_, ?_, ?_, ?_⟩ <;> decide +kernel

end Switchboard.Gateway
