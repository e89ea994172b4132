import Switchboard.Proofs.Gateway.History
import Switchboard.Proofs.Gateway.Routing
import Switchboard.Proofs.Gateway.Slots

/-! # Which node is selected

A selection is refused when every available node is excluded, and moves no cursor then.
Else the turn of the platform, taken modulo the number of slots of the best candidates,
points at the owner of a slot, and the turn is taken. The order in which the directory
lists its nodes has no part in it.
-/

namespace Switchboard.Gateway

section Selections

variable {σ : Type} [Directory σ] {g : Gateway σ} {excluded : List String} {platform : String}

structure Advanced (platform : String) (before after : Gateway σ) : Prop where
  own : (after.turn platform).toNat = ((before.turn platform).toNat + 1) % UInt64.size
  others : ∀ name, name ≠ platform →
    after.platformCursors[name]? = before.platformCursors[name]?
  clients : after.clientCursors = before.clientCursors

structure Exact (excluded : List String) (platform : String) (g : Gateway σ)
    (result : Except GatewayError Node × Gateway σ) : Prop where
  refused_iff : result.1 = .error (.noNodeAvailable platform) ↔
    ∀ node ∈ Directory.nodesForPlatform platform g.directory,
      node.isAvailable g.maxConsecutiveErrors → node.hostname ∈ excluded
  /-- There is no other refusal, and none moves a cursor. -/
  refused : ∀ e, result.1 = .error e → e = .noNodeAvailable platform ∧
    result.2.platformCursors = g.platformCursors ∧ result.2.clientCursors = g.clientCursors
  /-- The owner of the slot is found in machine words too, and nothing goes wrong on the way. -/
  chosen : ∀ node, result.1 = .ok node → ∃ best : List Node,
    Selection.IsBest (Selection.candidates g.maxConsecutiveErrors excluded
      (Directory.nodesForPlatform platform g.directory)) best ∧
    0 < Selection.totalSlots best ∧ Selection.totalSlots best < UInt64.size ∧
    (Selection.line best)[(g.turn platform).toNat % Selection.totalSlots best]? = some node ∧
    Selection.Word.winner best (g.turn platform) = .ok node
  advanced : ∀ node, result.1 = .ok node → Advanced platform g result.2

theorem candidates_eq_nil_iff {maxErrors : UInt32} {nodes : List Node} :
    Selection.candidates maxErrors excluded nodes = [] ↔
      ∀ node ∈ nodes, node.isAvailable maxErrors → node.hostname ∈ excluded := by
  simp [Selection.candidates]

theorem isBest_preferredNodes (excluded : List String)
    (distinct : ((Directory.nodesForPlatform platform g.directory).map (·.hostname)).Nodup) :
    Selection.IsBest (Selection.candidates g.maxConsecutiveErrors excluded
      (Directory.nodesForPlatform platform g.directory)) (g.preferredNodes excluded platform) :=
  Selection.isBest_preferred (Selection.nodup_hostnames_candidates _ _ distinct)

theorem advanced_advance (g : Gateway σ) (platform : String) :
    Advanced platform g (g.advance platform) where
  own := by
    rw [turn_advance, if_pos rfl, UInt64.toNat_add]
    rfl
  others name other := by
    change (g.platformCursors.insert platform _)[name]? = _
    rw [Maps.getElem?_insert, if_neg other.symm]
  clients := rfl

theorem exact_refused (refused : g.preferredNodes excluded platform = []) :
    Exact excluded platform g (.error (.noNodeAvailable platform), g.noteLookup) where
  refused_iff := by
    rw [← candidates_eq_nil_iff, ← Selection.preferred_eq_nil_iff]
    exact ⟨fun _ => refused, fun _ => rfl⟩
  refused := by
    rintro e ⟨⟩
    exact ⟨rfl, rfl, rfl⟩
  chosen := nofun
  advanced := nofun

theorem exact_chosen {node : Node}
    (distinct : ((Directory.nodesForPlatform platform g.directory).map (·.hostname)).Nodup)
    (few : (Directory.nodesForPlatform platform g.directory).length < UInt32.size)
    (won : Selection.winner? (g.preferredNodes excluded platform) (g.turn platform) = some node) :
    Exact excluded platform g (.ok node, g.advance platform) := by
  have best := isBest_preferredNodes excluded distinct
  have fewer : (g.preferredNodes excluded platform).length < UInt32.size :=
    Nat.lt_of_le_of_lt (best.length_le.trans (List.length_filter_le _ _)) few
  have member := Selection.mem_of_winner? won
  have left := List.ne_nil_of_mem member
  constructor
  case refused_iff =>
    rw [← candidates_eq_nil_iff, ← Selection.preferred_eq_nil_iff]
    exact ⟨nofun, fun none => absurd none left⟩
  case refused => exact nofun
  case chosen =>
    rintro node ⟨⟩
    obtain ⟨winner, walked, won'⟩ := Selection.Word.winner_eq left fewer (g.turn platform)
    rw [won] at won'
    cases won'
    rw [Selection.winner?_eq_getElem?] at won
    exact ⟨_, best, Selection.totalSlots_pos left, Selection.totalSlots_lt fewer, won, walked⟩
  case advanced => exact fun _ _ => advanced_advance g platform

theorem exact_selectExcluding
    (distinct : ((Directory.nodesForPlatform platform g.directory).map (·.hostname)).Nodup)
    (few : (Directory.nodesForPlatform platform g.directory).length < UInt32.size) :
    Exact excluded platform g (g.selectExcluding excluded platform) := by
  rcases g.selectExcluding_cases excluded platform with ⟨none, selected⟩ | ⟨node, won, selected⟩
  · rw [selected]
    exact exact_refused none
  · rw [selected]
    exact exact_chosen distinct few won

/-- A selection depends on the nodes that count and on the turn only. -/
theorem selectExcluding_fst_eq {τ : Type} [Directory τ] {g' : Gateway τ}
    (nodes : g'.preferredNodes excluded platform = g.preferredNodes excluded platform)
    (turn : g'.turn platform = g.turn platform) :
    (g'.selectExcluding excluded platform).1 = (g.selectExcluding excluded platform).1 := by
  rcases g.selectExcluding_cases excluded platform with ⟨none, selected⟩ | ⟨node, won, selected⟩ <;>
    rcases g'.selectExcluding_cases excluded platform with
      ⟨none', selected'⟩ | ⟨node', won', selected'⟩
  · rw [selected, selected']
  · rw [nodes, none] at won'
    cases won'
  · rw [← nodes, none'] at won
    cases won
  · rw [nodes, turn, won] at won'
    cases won'
    rw [selected, selected']

/-- A selection is refused when every available node is excluded, and leaves the cursors alone
then. Else it answers the owner of the slot that the turn points at among the best candidates, and
takes the turn. The nodes may be listed in any order. -/
theorem selection_exact (g : Gateway σ) (excluded : List String) (platform : String)
    (distinct : ((Directory.nodesForPlatform platform g.directory).map (·.hostname)).Nodup)
    (few : (Directory.nodesForPlatform platform g.directory).length < UInt32.size) :
    Exact excluded platform g (g.selectExcluding excluded platform) ∧
      ∀ (τ : Type) [Directory τ] (g' : Gateway τ),
        (Directory.nodesForPlatform platform g.directory).Perm
            (Directory.nodesForPlatform platform g'.directory) →
          g'.maxConsecutiveErrors = g.maxConsecutiveErrors →
            g'.turn platform = g.turn platform →
              (g'.selectExcluding excluded platform).1 =
                (g.selectExcluding excluded platform).1 := by
  refine ⟨exact_selectExcluding distinct few, fun τ _ g' same limit turn => ?_⟩
  refine selectExcluding_fst_eq ?_ turn
  unfold preferredNodes
  rw [limit]
  exact (Selection.preferred_eq_of_perm (Selection.candidates_perm _ _ same)
    (Selection.nodup_hostnames_candidates _ _ distinct)).symm

end Selections

/-- The last turn before the cursor starts over, with weights at both ends of their range: it is
turn 2^64 - 1, which leaves 3 modulo the 2^31 + 1 slots. -/
theorem selection_exact_at_last_turn :
    let node (hostname ip : String) (priority weight : Int32) : Node :=
      ⟨hostname, ip, .ofList ["pstn"], priority, weight, 0, false⟩
    let a := node "a" "10.0.0.1" (-7) 0
    let b := node "b" "10.0.0.2" (-7) 2147483647
    let c := node "c" "10.0.0.3" (-7) (-2147483648)
    let d := node "d" "10.0.0.4" (-2147483648) 9
    let e := node "e" "10.0.0.5" 3 9
    let start : Gateway Backend :=
      { directory := .memory {}, platformCursors := Std.ExtTreeMap.insert ∅ "pstn" (0 - 1) }
    let g := start.afterTurns ([c, b, e, d, a].map fun node => .act (.registerNode node))
    Exact ["d"] "pstn" g (g.selectExcluding ["d"] "pstn") ∧
      g.preferredNodes ["d"] "pstn" = [a, b, c] ∧
      g.selectExcluding ["d"] "pstn" = (.ok b, g.advance "pstn") ∧
      (g.advance "pstn").turn "pstn" = 0 := by
  intro node a b c d e start g
  have distinct : ((Directory.nodesForPlatform "pstn" g.directory).map (·.hostname)).Nodup := by
    decide +kernel
  have few : (Directory.nodesForPlatform "pstn" g.directory).length < UInt32.size := by
    decide +kernel
  have best : g.preferredNodes ["d"] "pstn" = [a, b, c] :=
    (isBest_preferredNodes _ distinct).unique
      (Selection.isBest_of_perm (by decide +kernel) (by decide +kernel))
  have owner : Selection.winner? [a, b, c] (g.turn "pstn") = some b := by decide +kernel
  refine ⟨(selection_exact g ["d"] "pstn" distinct few).1, best, ?_, by decide +kernel⟩
  rcases g.selectExcluding_cases ["d"] "pstn" with ⟨none, -⟩ | ⟨winner, won, selected⟩
  · rw [best] at none
    cases none
  · rw [best, owner] at won
    cases won
    exact selected

end Switchboard.Gateway
