import Switchboard.Proofs.Gateway.Cursors
import Switchboard.Proofs.Gateway.Exactness

/-! # Shares by weight

Selections on a platform that follow on each other answer the owners of slots that follow on
each other, starting where the cursor stands and going round the line. As many selections
as there are slots go round once, so each node is answered as often as it owns a slot.
-/

namespace Switchboard

/-! ## Slots in turn -/

namespace Selection

variable {best nodes nodes' : List Node} {turn : Nat}

/-- The nodes own slots that follow on each other, beginning with that of a turn. -/
def FollowOn (best : List Node) (turn : Nat) (nodes : List Node) : Prop :=
  ∀ made < nodes.length, nodes[made]? = (line best)[(turn + made) % totalSlots best]?

theorem FollowOn.nil : FollowOn best turn [] := nofun

theorem followOn_owner (best : List Node) (turn : Nat) :
    FollowOn best turn ((line best)[turn % totalSlots best]?).toList := by
  intro made within
  cases owner : (line best)[turn % totalSlots best]? with
  | none =>
      rw [owner] at within
      cases within
  | some node =>
      rw [owner] at within
      obtain rfl := Nat.lt_one_iff.1 within
      exact owner.symm

theorem FollowOn.append (first : FollowOn best turn nodes)
    (second : FollowOn best (turn + nodes.length) nodes') :
    FollowOn best turn (nodes ++ nodes') := by
  intro made within
  rw [List.length_append] at within
  by_cases early : made < nodes.length
  · rw [List.getElem?_append_left early]
    exact first made early
  · have late : nodes.length ≤ made := Nat.le_of_not_lt early
    rw [List.getElem?_append_right late, second _ (by omega)]
    congr 2
    omega

/-- As many nodes as there are slots go round the line once. -/
theorem FollowOn.perm (follow : FollowOn best turn nodes)
    (whole : nodes.length = totalSlots best) : nodes.Perm (line best) := by
  rw [← length_line] at whole
  exact perm_of_goes_round turn whole fun made within => by rw [follow made within, length_line]

end Selection

/-! ## Windows of a history -/

open Selection

namespace Gateway

/-- In a window nodes are picked on a platform by plain selections only, when it lists the nodes
that are given. -/
inductive Undisturbed (platform : String) (nodes : List Node) :
    Gateway Backend → List Turn → Prop
  | nil (g : Gateway Backend) : Undisturbed platform nodes g []
  | select {g : Gateway Backend} {rest : List Turn} :
    (Directory.nodesForPlatform platform g.directory).Perm nodes →
      Undisturbed platform nodes (g.afterTurn (.act (.select platform))) rest →
        Undisturbed platform nodes g (.act (.select platform) :: rest)
  /-- An entry that picks no node on the platform may be anything else. -/
  | other {g : Gateway Backend} {turn : Turn} {rest : List Turn} :
    turn.picked platform g = [] → Undisturbed platform nodes (g.afterTurn turn) rest →
      Undisturbed platform nodes g (turn :: rest)

variable {g start : Gateway Backend} {platform : String} {nodes best : List Node}
  {maxErrors : UInt32} {window : List Turn}

/-- A selection picks the owner of the slot at which the cursor stands. -/
theorem picked_select (holds : ∃ records, g.directory.Holds records)
    (listed : (Directory.nodesForPlatform platform g.directory).Perm nodes)
    (limit : g.maxConsecutiveErrors = maxErrors)
    (isBest : IsBest (candidates maxErrors [] nodes) best) :
    Turn.picked platform g (.act (.select platform)) =
      ((line best)[(g.turn platform).toNat % totalSlots best]?).toList := by
  obtain ⟨records, holds⟩ := holds
  have count : g.preferredNodes [] platform = best := by
    refine (isBest_preferredNodes [] (holds.nodup_hostnames_nodesForPlatform platform)).unique ?_
    rw [limit]
    exact isBest.of_perm (candidates_perm maxErrors [] listed).symm
  rw [← winner?_eq_getElem?, ← count]
  change pickedOn platform platform (g.selectExcluding [] platform).1.toOption.toList = _
  rw [pickedOn, if_pos rfl]
  rcases g.selectExcluding_cases [] platform with ⟨none, selected⟩ | ⟨node, won, selected⟩
  · rw [selected, none]
    rfl
  · rw [selected, won]
    rfl

/-- The nodes picked by an entry come before those that the rest of the window picks. -/
theorem followOn_picks_cons {turn : Turn} {rest : List Turn}
    (first : FollowOn best (g.turn platform).toNat (turn.picked platform g))
    (few : (g.turn platform).toNat + (g.picks platform (turn :: rest)).length < UInt64.size)
    (second : let next := g.afterTurn turn
      (next.turn platform).toNat + (next.picks platform rest).length < UInt64.size →
        FollowOn best (next.turn platform).toNat (next.picks platform rest)) :
    FollowOn best (g.turn platform).toNat (g.picks platform (turn :: rest)) := by
  rw [picks, List.length_append, ← Nat.add_assoc] at few
  have turned := (took_afterTurn platform g turn).toNat_turn
    (Nat.lt_of_le_of_lt (Nat.le_add_right _ _) few)
  refine first.append ?_
  rw [← turned] at few ⊢
  exact second few

/-- The nodes picked in a window own slots that follow on each other. -/
theorem followOn_picks (isBest : IsBest (candidates maxErrors [] nodes) best)
    (undisturbed : Undisturbed platform nodes g window) :
    (∃ records, g.directory.Holds records) → g.maxConsecutiveErrors = maxErrors →
      (g.turn platform).toNat + (g.picks platform window).length < UInt64.size →
        FollowOn best (g.turn platform).toNat (g.picks platform window) := by
  have holds_after {g : Gateway Backend} (turn : Turn)
      (holds : ∃ records, g.directory.Holds records) :=
    Backend.preserved_holds.afterTurn holds turn.obeys_anything
  have limit_after {g : Gateway Backend} (turn : Turn)
      (limit : g.maxConsecutiveErrors = maxErrors) :=
    (took_afterTurn platform g turn).limit.trans limit
  induction undisturbed with
  | nil => exact fun _ _ _ => .nil
  | select listed rest ih =>
      intro holds limit few
      refine followOn_picks_cons ?_ few (ih (holds_after _ holds) (limit_after _ limit))
      rw [picked_select holds listed limit isBest]
      exact followOn_owner best _
  | other idle rest ih =>
      intro holds limit few
      refine followOn_picks_cons ?_ few (ih (holds_after _ holds) (limit_after _ limit))
      rw [idle]
      exact .nil

/-- In a window in which nothing else takes a turn of a platform whose nodes stay as they are,
as many selections as the best nodes own slots answer each of them once for every slot and no
other node, wherever the cursor stands, as long as it has not started over. -/
theorem selections_shared_by_weight (start : Gateway Backend) (before window : List Turn)
    (platform : String) (nodes best : List Node) (fresh : start.directory.Fresh)
    (few : (start.turn platform).toNat + (start.picks platform (before ++ window)).length <
      UInt64.size)
    (undisturbed : Undisturbed platform nodes (start.afterTurns before) window)
    (isBest : IsBest (candidates start.maxConsecutiveErrors [] nodes) best)
    (whole : ((start.afterTurns before).picks platform window).length = totalSlots best)
    (node : Node) :
    ((start.afterTurns before).picks platform window).count node =
      if node ∈ best then slots node else 0 := by
  rw [picks_append, List.length_append, ← Nat.add_assoc] at few
  have took := took_afterTurns platform start before
  have turned := took.toNat_turn (Nat.lt_of_le_of_lt (Nat.le_add_right _ _) few)
  rw [← turned] at few
  have follow := followOn_picks isBest undisturbed (fresh.holds_afterTurns before) took.limit few
  rw [(follow.perm whole).count_eq, count_line isBest.nodup]

/-! ### Selections only -/

theorem picked_select_other {name : String} (other : name ≠ platform) :
    Turn.picked platform g (.act (.select name)) = [] :=
  if_neg other

theorem nodesForPlatform_afterTurn_select (g : Gateway Backend) (platform name : String) :
    Directory.nodesForPlatform platform (g.afterTurn (.act (.select name))).directory =
      Directory.nodesForPlatform platform g.directory := by
  change Directory.nodesForPlatform platform (g.selectExcluding [] name).2.directory = _
  rw [directory_selectExcluding, Backend.nodesForPlatform_noteLookup]

/-- Selections do not disturb each other, whichever platforms they are on. -/
theorem undisturbed_selections (g : Gateway Backend) (platform : String) (names : List String) :
    Undisturbed platform (Directory.nodesForPlatform platform g.directory) g
      (names.map fun name => .act (.select name)) := by
  induction names generalizing g with
  | nil => exact .nil g
  | cons name rest ih =>
      have later := ih (g.afterTurn (.act (.select name)))
      rw [nodesForPlatform_afterTurn_select] at later
      by_cases same : name = platform
      · subst same
        exact .select (.refl _) later
      · exact .other (picked_select_other same) later

/-- When a platform has a node to offer, each selection on it picks one. -/
theorem length_picks_selections (names : List String)
    (left : g.preferredNodes [] platform ≠ []) :
    (g.picks platform (names.map fun name => .act (.select name))).length =
      names.count platform := by
  induction names generalizing g with
  | nil => rfl
  | cons name rest ih =>
      have later : (g.afterTurn (.act (.select name))).preferredNodes [] platform ≠ [] := by
        rwa [preferredNodes, nodesForPlatform_afterTurn_select,
          (took_afterTurn platform g _).limit]
      have first : (Turn.picked platform g (.act (.select name))).length =
          if name == platform then 1 else 0 := by
        by_cases same : name = platform
        · subst same
          rw [if_pos (beq_self_eq_true name)]
          change (pickedOn name name (g.selectExcluding [] name).1.toOption.toList).length = 1
          rcases g.selectExcluding_cases [] name with ⟨none, -⟩ | ⟨node, -, selected⟩
          · exact absurd none left
          · rw [selected, pickedOn, if_pos rfl]
            rfl
        · rw [picked_select_other same, if_neg (mt eq_of_beq same)]
          rfl
      rw [List.map_cons, picks, List.length_append, first, ih later, List.count_cons, Nat.add_comm]

/-- Weights 2 and 0, from a cursor that stands at 7, between selections on other platforms. -/
theorem three_selections_shared_by_two_nodes :
    let node (hostname ip platform : String) (priority weight : Int32) : Node :=
      ⟨hostname, ip, .ofList [platform], priority, weight, 0, false⟩
    let a := node "a" "10.0.0.1" "pstn" 1 2
    let b := node "b" "10.0.0.2" "pstn" 1 0
    let c := node "c" "10.0.0.3" "pstn" 2 5
    let d := node "d" "10.0.0.4" "sip" 1 1
    let start : Gateway Backend :=
      { directory := .memory {}, platformCursors := Std.ExtTreeMap.insert ∅ "pstn" 7 }
    let before : List Turn := [b, c, d, a].map fun node => .act (.registerNode node)
    let window : List Turn := ["pstn", "sip", "pstn", "fax", "pstn"].map fun name =>
      .act (.select name)
    let picks := (start.afterTurns before).picks "pstn" window
    (start.turn "pstn").toNat + (start.picks "pstn" (before ++ window)).length < UInt64.size ∧
      picks.length = 3 ∧ picks.count a = 2 ∧ picks.count b = 1 ∧ picks.count c = 0 := by
  intro node a b c d start before window picks
  have isBest : IsBest (candidates start.maxConsecutiveErrors []
      (Directory.nodesForPlatform "pstn" (start.afterTurns before).directory)) [a, b] :=
    isBest_of_perm (by decide +kernel) (by decide +kernel)
  have best : (start.afterTurns before).preferredNodes [] "pstn" = [a, b] := by
    refine (isBest_preferredNodes [] (by decide +kernel)).unique ?_
    rw [(took_afterTurns "pstn" start before).limit]
    exact isBest
  have three : picks.length = 3 := length_picks_selections _ (by rw [best]; nofun)
  have few : (start.turn "pstn").toNat + (start.picks "pstn" (before ++ window)).length <
      UInt64.size := by
    rw [picks_append, List.length_append, three]
    decide +kernel
  have share := selections_shared_by_weight start before window "pstn" _ _ .memory few
    (undisturbed_selections _ "pstn" _) isBest three
  exact ⟨few, three, share a, share b, share c⟩

end Gateway

end Switchboard
