import Switchboard.Proofs.Directory.NodeCommands
import Switchboard.Proofs.Gateway.Preserved

/-! # Counts of failures

The record of a node counts the failures that were reported for its hostname since the count
was last set: by a caller who wrote the record, by a success or by an operator. Reports write
back the record that they have just read, so that the copy that they come with plays no part.
-/

namespace Switchboard

open Switchboard.Maps Switchboard.Records
open Replicated (Event)

/-! ## Tallies -/

/-- The failures of a registered node: those that its count was last set to, and those that were
reported since. -/
structure Tally where
  start : Nat
  failures : Nat
deriving DecidableEq

namespace Tally

/-- The count that a record keeps, which stops at its greatest value. -/
def count (tally : Tally) : Nat :=
  min (2 ^ 32 - 1) (tally.start + tally.failures)

/-- The tally of a node after something that bears on it; there is none while the node is not
registered. -/
def next (tally : Option Tally) : Happening → Option Tally
  | .written node => some ⟨node.consecutiveErrors.toNat, 0⟩
  | .removed _ => none
  | .failed _ => tally.map fun t => ⟨t.start, t.failures + 1⟩
  | .succeeded _ | .flagged _ => tally.map fun _ => ⟨0, 0⟩

def after (hostname : String) (past : List Happening) : Option Tally :=
  (past.filter (·.hostname = hostname)).foldl next none

theorem after_concat (hostname : String) (past : List Happening) (happening : Happening) :
    after hostname (past ++ [happening]) =
      if happening.hostname = hostname then next (after hostname past) happening
      else after hostname past := by
  by_cases same : happening.hostname = hostname
  · simp [after, same]
  · simp [after, same]

end Tally

/-! ## Records that reflect a history -/

/-- The records that there are count what their tallies say. -/
def Reflects (nodes : NodeMap) (past : List Happening) : Prop :=
  ∀ hostname : String, (nodes[hostname]?).map (·.consecutiveErrors.toNat) =
    (Tally.after hostname past).map Tally.count

section Reflects

variable {nodes nodes' : NodeMap} {past : List Happening}

theorem Reflects.concat (reflects : Reflects nodes past) {happening : Happening}
    (others : ∀ hostname : String, happening.hostname ≠ hostname →
      nodes'[hostname]? = nodes[hostname]?)
    (own : (nodes'[happening.hostname]?).map (·.consecutiveErrors.toNat) =
      (Tally.next (Tally.after happening.hostname past) happening).map Tally.count) :
    Reflects nodes' (past ++ [happening]) := by
  intro hostname
  rw [Tally.after_concat]
  split
  · next same => rw [← same, own]
  · next other => rw [others hostname other, reflects hostname]

/-- Something that leaves the count of its node as it is needs no record written. -/
theorem Reflects.unchanged (reflects : Reflects nodes past) {happening : Happening}
    (same : (Tally.next (Tally.after happening.hostname past) happening).map Tally.count =
      (Tally.after happening.hostname past).map Tally.count) :
    Reflects nodes (past ++ [happening]) :=
  reflects.concat (fun _ _ => rfl) ((reflects _).trans same.symm)

theorem Reflects.insert (reflects : Reflects nodes past) {node : Node} {happening : Happening}
    (named : happening.hostname = node.hostname)
    (count : (Tally.next (Tally.after node.hostname past) happening).map Tally.count =
      some node.consecutiveErrors.toNat) :
    Reflects (nodes.insert node.hostname node) (past ++ [happening]) := by
  apply reflects.concat
  · intro hostname other
    rw [Maps.getElem?_insert, if_neg (named ▸ other)]
  · rw [named, count, Maps.getElem?_insert, if_pos rfl]
    rfl

theorem Reflects.erase (reflects : Reflects nodes past) (hostname : String) :
    Reflects (nodes.erase hostname) (past ++ [.removed hostname]) := by
  apply reflects.concat
  · intro kept (other : hostname ≠ kept)
    rw [Maps.getElem?_erase, if_neg other]
  · change ((nodes.erase hostname)[hostname]?).map _ = none
    rw [Maps.getElem?_erase, if_pos rfl]
    rfl

theorem Tally.count_written (node : Node) :
    Tally.count ⟨node.consecutiveErrors.toNat, 0⟩ = node.consecutiveErrors.toNat := by
  have bound := node.consecutiveErrors.toNat_lt
  simp only [Tally.count]
  omega

theorem Reflects.operation (reflects : Reflects nodes past) (op : Operation) :
    Reflects (op.onNodes nodes) (past ++ op.happenings) := by
  cases op with
  | storeNode node | updateNode node =>
      exact reflects.insert rfl (congrArg some (Tally.count_written node))
  | removeNode hostname => exact reflects.erase hostname
  | _ =>
      change Reflects nodes (past ++ [])
      rwa [List.append_nil]

end Reflects

/-- A failure adds one to the count of a record, unless that is at its greatest value. -/
theorem Node.toNat_withFailure (node : Node) :
    node.withFailure.consecutiveErrors.toNat =
      min (2 ^ 32 - 1) (node.consecutiveErrors.toNat + 1) := by
  have bound := node.consecutiveErrors.toNat_lt
  have greatest : (UInt32.ofNat (UInt32.size - 1)).toNat = 2 ^ 32 - 1 := rfl
  unfold Node.withFailure
  split
  · next full =>
      rw [full, greatest]
      omega
  · next room =>
      have below : node.consecutiveErrors.toNat ≠ 2 ^ 32 - 1 := fun full =>
        room (UInt32.toNat_inj.1 (full.trans greatest.symm))
      have added : (node.consecutiveErrors + 1).toNat = node.consecutiveErrors.toNat + 1 := by
        rw [UInt32.toNat_add, UInt32.toNat_one]
        omega
      rw [added]
      omega

/-! ## Directories that reflect a history -/

def Backend.Counts (past : List Happening) (b : Backend) : Prop :=
  ∃ nodes, b.Holds nodes ∧ b.InOrder ∧ Reflects nodes past

namespace Backend

variable {b : Backend} {past : List Happening}

theorem Fresh.counts (fresh : b.Fresh) (unfailing : b.Unfailing) : b.Counts [] := by
  refine ⟨∅, fresh.holds, fresh.inOrder unfailing, fun hostname => ?_⟩
  simp [Tally.after]

theorem Counts.noteLookup (counts : b.Counts past) : (Directory.noteLookup b).Counts past := by
  obtain ⟨nodes, holds, inOrder, reflects⟩ := counts
  exact ⟨nodes, holds.noteLookup, inOrder.noteLookup, reflects⟩

theorem Counts.run (counts : b.Counts past) (op : Operation) :
    (op.run b).2.Counts (past ++ b.happenings (.operation op)) := by
  obtain ⟨nodes, holds, inOrder, reflects⟩ := counts
  cases result : (op.run b).1 with
  | error e =>
      have nothing : b.happenings (.operation op) = [] := by
        simp [happenings, result, Except.isOk, Except.toBool]
      rw [nothing, List.append_nil]
      exact ⟨nodes, holds.of_refused result, inOrder.run op, reflects⟩
  | ok answer =>
      have all : b.happenings (.operation op) = op.happenings := by
        simp [happenings, result, Except.isOk, Except.toBool]
      rw [all]
      exact ⟨_, holds.of_answered inOrder result, inOrder.run op, reflects.operation op⟩

theorem Counts.after (counts : b.Counts past) {event : Event} (quiet : event.Quiet) :
    (b.after event).Counts (past ++ b.happenings event) := by
  cases event with
  | operation op =>
      rw [after_operation]
      exact counts.run op
  | advance | failReads | failWrites =>
      obtain ⟨nodes, holds, inOrder, reflects⟩ := counts
      change Counts (past ++ []) (b.after _)
      rw [List.append_nil]
      obtain ⟨_, holds', rfl | ⟨op, same, -⟩⟩ := holds.after _
      · exact ⟨_, holds', inOrder.after quiet, reflects⟩
      · cases same

/-- A node that is shown has a tally, and is shown with the count of it. -/
theorem Counts.shown (counts : b.Counts past) (hostname : String) :
    (Directory.getNode? hostname b).map (·.consecutiveErrors.toNat) =
      (Tally.after hostname past).map Tally.count := by
  obtain ⟨nodes, holds, inOrder, reflects⟩ := counts
  have errors := congrArg (Option.map UInt32.toNat) (holds.consecutiveErrors inOrder hostname)
  rw [Option.map_map, Option.map_map] at errors
  exact errors.trans (reflects hostname)

theorem Counts.unchanged (counts : b.Counts past) {happening : Happening}
    (same : (Tally.next (Tally.after happening.hostname past) happening).map Tally.count =
      (Tally.after happening.hostname past).map Tally.count) :
    b.Counts (past ++ [happening]) := by
  obtain ⟨nodes, holds, inOrder, reflects⟩ := counts
  exact ⟨nodes, holds, inOrder, reflects.unchanged same⟩

theorem Counts.tally_eq_none (counts : b.Counts past) {hostname : String}
    (unread : Directory.getNode? hostname b = none) : Tally.after hostname past = none := by
  have same := counts.shown hostname
  rwa [unread, Option.map_none, eq_comm, Option.map_eq_none_iff] at same

theorem Counts.exists_tally (counts : b.Counts past) {hostname : String} {shown : Node}
    (found : Directory.getNode? hostname b = some shown) :
    ∃ tally, Tally.after hostname past = some tally ∧
      tally.count = shown.consecutiveErrors.toNat := by
  have same := counts.shown hostname
  rwa [found, Option.map_some, eq_comm, Option.map_eq_some_iff] at same

/-- A record that has just been read can be written back with another count. -/
theorem Counts.writeBack (counts : b.Counts past) {hostname : String} {shown : Node}
    (found : Directory.getNode? hostname b = some shown) (node : Node)
    (sameHostname : node.hostname = shown.hostname) (sameIp : node.ipAddress = shown.ipAddress)
    {happening : Happening}
    (named : happening.hostname = hostname)
    (count : (Tally.next (Tally.after hostname past) happening).map Tally.count =
      some node.consecutiveErrors.toNat) :
    let (result, b') := Directory.updateNode node (Directory.noteLookup b)
    result = .ok node ∧ b'.Counts (past ++ [happening]) := by
  obtain ⟨nodes, holds, inOrder, reflects⟩ := counts
  obtain ⟨record, known, shows⟩ := holds.shows found
  have key : node.hostname = hostname := sameHostname.trans (holds.hostname_of_getNode? found)
  have sameIp : node.ipAddress = record.ipAddress := by rw [sameIp, shows]
  subst key
  have accepted := holds.noteLookup.updateNode_accepted inOrder.noteLookup known sameIp
  exact ⟨accepted, _, holds.noteLookup.updateNode_ok accepted,
    inOrder.noteLookup.run (.updateNode node), reflects.insert named count⟩

/-- A record that cannot be read is not written either. -/
theorem Counts.writeBack_unread (counts : b.Counts past) (node : Node)
    (unread : Directory.getNode? node.hostname b = none) :
    (Directory.updateNode node (Directory.noteLookup b)).2.Counts past := by
  obtain ⟨nodes, holds, inOrder, reflects⟩ := counts
  refine ⟨nodes, holds.noteLookup.updateNode_unread ?_, inOrder.noteLookup.run (.updateNode node),
    reflects⟩
  rwa [getNode?_noteLookup]

end Backend

/-! ## Gateways -/

namespace Gateway

variable {g : Gateway Backend} {past : List Happening}

theorem counts_recordFailure (counts : g.directory.Counts past) (node : Node) :
    (g.recordFailure node).2.directory.Counts (past ++ [.failed node.hostname]) := by
  rw [recordFailure_eq, registered]
  cases found : Directory.getNode? node.hostname g.directory with
  | none =>
      -- The copy at hand is all there is, and the directory does not take it.
      refine (counts.writeBack_unread node.withFailure found).unchanged ?_
      simp only [Happening.hostname, counts.tally_eq_none found]
      rfl
  | some shown =>
      obtain ⟨tally, known, count⟩ := counts.exists_tally found
      refine (counts.writeBack found shown.withFailure rfl rfl rfl ?_).2
      rw [known, Node.toNat_withFailure, ← count]
      simp only [Tally.next, Option.map_some, Tally.count, Option.some.injEq]
      omega

theorem counts_recordSuccess (counts : g.directory.Counts past) (node : Node) :
    (g.recordSuccess node).2.directory.Counts (past ++ [.succeeded node.hostname]) := by
  rw [recordSuccess_eq, registered]
  cases found : Directory.getNode? node.hostname g.directory with
  | none =>
      have same : (Tally.next (Tally.after node.hostname past) (.succeeded node.hostname)).map
          Tally.count = (Tally.after node.hostname past).map Tally.count := by
        rw [counts.tally_eq_none found]
        rfl
      rw [Option.getD_none]
      split
      · exact counts.noteLookup.unchanged same
      · exact (counts.writeBack_unread { node with consecutiveErrors := 0 } found).unchanged same
  | some shown =>
      obtain ⟨tally, known, count⟩ := counts.exists_tally found
      rw [Option.getD_some]
      split
      · next zero =>
          rw [zero] at count
          refine counts.noteLookup.unchanged ?_
          simp only [Happening.hostname, known, Tally.next, Option.map_some, count]
          rfl
      · exact (counts.writeBack found { shown with consecutiveErrors := 0 } rfl rfl rfl
          (by rw [known]; rfl)).2

/-- A flag is written whenever there is a node to write it on. -/
theorem counts_blacklist (counts : g.directory.Counts past) (platform hostname : String)
    (blacklisted : Bool) :
    (g.blacklist platform hostname blacklisted).2.directory.Counts
      (past ++ g.actionHappenings (.blacklist platform hostname blacklisted)) := by
  rw [actionHappenings]
  cases read : Directory.findNode hostname g.directory with
  | error e =>
      rw [blacklist_of_unread read, List.append_nil]
      exact counts.noteLookup
  | ok found =>
      cases serves : found.filter (·.serves platform) with
      | none =>
          rw [blacklist_of_elsewhere read serves, List.append_nil]
          exact counts.noteLookup
      | some node =>
          have shown := Backend.getNode?_of_filter read serves
          obtain ⟨tally, known, -⟩ := counts.exists_tally shown
          have cleared : (Tally.next (Tally.after hostname past) (.flagged hostname)).map
              Tally.count = some (withFlag blacklisted node).consecutiveErrors.toNat := by
            rw [known]
            rfl
          obtain ⟨accepted, counts'⟩ := counts.writeBack shown (withFlag blacklisted node) rfl rfl
            rfl cleared
          have written : g.noteLookup.command (Directory.updateNode (withFlag blacklisted node)) =
              (.ok (withFlag blacklisted node), (g.noteLookup.command
                (Directory.updateNode (withFlag blacklisted node))).2) :=
            Prod.ext (congrArg (Except.mapError GatewayError.directory) accepted) rfl
          rw [blacklist_of_written read serves written]
          exact counts'

/-- Every step that makes nothing fail counts what it means. -/
theorem carried_counts :
    Carried (fun past b => b.Counts past) (Turn.Obeys Event.Quiet) where
  noteLookup := Backend.Counts.noteLookup
  after := fun counts quiet => counts.after quiet
  recordFailure := fun node counts => counts_recordFailure counts node
  recordSuccess := fun node counts => counts_recordSuccess counts node
  blacklist := fun counts _ => counts_blacklist counts _ _ _
  operation := id
  stored := fun _ => trivial
  updated := fun _ => trivial
  removed := fun _ => trivial
  bound := fun _ _ => trivial
  course := id

/-- A node that is selected has no more failures than are allowed, unless counts stop before
that. -/
theorem failures_le_of_select (counts : g.directory.Counts past) {platform : String} {node : Node}
    (chosen : (g.select platform).1 = .ok node)
    (bounded : g.maxConsecutiveErrors.toNat < 2 ^ 32 - 1) :
    ∃ tally, Tally.after node.hostname past = some tally ∧
      tally.start + tally.failures ≤ g.maxConsecutiveErrors.toNat := by
  obtain ⟨listed, available, -⟩ := mem_of_selectExcluding chosen
  obtain ⟨nodes, holds, -⟩ := id counts
  obtain ⟨tally, known, count⟩ := counts.exists_tally (holds.getNode?_of_mem listed)
  have few : node.consecutiveErrors.toNat ≤ g.maxConsecutiveErrors.toNat := by
    have allowed : node.consecutiveErrors ≤ g.maxConsecutiveErrors := by
      simpa using (Bool.and_eq_true_iff.1 available).2
    exact UInt32.le_iff_toNat_le.1 allowed
  refine ⟨tally, known, ?_⟩
  rw [Tally.count] at count
  omega

/-- After every history without failures the records count the failures that were reported since
their counts were last set, and no node that failed more often than is allowed is selected. -/
theorem records_count_failures (fresh : g.directory.Fresh) (unfailing : g.directory.Unfailing)
    {turns : List Turn} (quiet : ∀ turn ∈ turns, turn.Obeys Event.Quiet) :
    (∀ hostname,
      (Directory.getNode? hostname (g.afterTurns turns).directory).map
          (·.consecutiveErrors.toNat) =
        (Tally.after hostname (g.happeningsAll turns)).map fun tally =>
          min (2 ^ 32 - 1) (tally.start + tally.failures)) ∧
      ∀ platform node, ((g.afterTurns turns).select platform).1 = .ok node →
        (g.afterTurns turns).maxConsecutiveErrors.toNat < 2 ^ 32 - 1 →
          ∃ tally, Tally.after node.hostname (g.happeningsAll turns) = some tally ∧
            tally.start + tally.failures ≤ (g.afterTurns turns).maxConsecutiveErrors.toNat := by
  have counts := carried_counts.afterTurns (fresh.counts unfailing) quiet
  rw [List.nil_append] at counts
  exact ⟨counts.shown, fun _ _ chosen bounded => failures_le_of_select counts chosen bounded⟩

/-- A node is registered with two failures; one more is reported with a copy that counts nine, an
operator clears the count, and then a report and a dispatch fail. -/
theorem two_failures_counted_after_clearing :
    let node : Node := ⟨"a", "10.0.0.1", .ofList ["pstn"], 1, 1, 2, false⟩
    let stale : Node := { node with consecutiveErrors := 9 }
    let g : Gateway Backend := { directory := .memory {} }
    let turns : List Turn := [.act (.registerNode node), .act (.recordFailure stale),
      .act (.blacklist "pstn" "a" false), .act (.recordFailure stale),
      .dispatch "pstn" 0 fun _ _ => ([], (.error "busy" : Except _ Unit))]
    Tally.after "a" (g.happeningsAll turns) = some ⟨0, 2⟩ ∧
      (Directory.getNode? "a" (g.afterTurns turns).directory).map
        (·.consecutiveErrors.toNat) = some 2 := by
  intro node stale g turns
  have quiet : ∀ turn ∈ turns, turn.Obeys Event.Quiet := by
    intro turn hturn
    simp only [turns, List.mem_cons, List.not_mem_nil, or_false] at hturn
    rcases hturn with rfl | rfl | rfl | rfl | rfl
    · trivial
    · trivial
    · trivial
    · trivial
    · exact fun _ _ event hevent => nomatch hevent
  have tally : Tally.after "a" (g.happeningsAll turns) = some ⟨0, 2⟩ := by
    decide +kernel
  have counted := (records_count_failures (g := g) .memory trivial quiet).1 "a"
  rw [tally] at counted
  exact ⟨tally, counted⟩

end Gateway

end Switchboard
