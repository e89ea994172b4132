import Mathlib.Data.List.Nodup
import Mathlib.Data.List.Perm.Subperm
import Mathlib.Data.List.Rotate
import Switchboard.Gateway.Selection

/-! # Selection and the order of nodes

A ticket falls to one of the candidates, and to the same one in whatever order the nodes are
listed: the least priority value does not depend on an order, and nodes with distinct
hostnames can be sorted by hostname in one way only.
-/

namespace Switchboard.Selection

variable {nodes nodes' : List Node}

/-! ## Sorted lists -/

theorem pairwise_mergeSort_key {α : Type} (key : α → String) (list : List α) :
    (list.mergeSort fun a b => key a ≤ key b).Pairwise fun a b => key a ≤ key b := by
  have sorted : (list.mergeSort fun a b => key a ≤ key b).Pairwise
      fun a b => decide (key a ≤ key b) = true := by
    refine List.pairwise_mergeSort (fun a b c => ?_) (fun a b => ?_) list
    · simp only [decide_eq_true_eq]
      exact String.le_trans
    · simpa using String.le_total (key a) (key b)
  exact sorted.imp of_decide_eq_true

theorem pairwise_lt_mergeSort_key {α : Type} {list : List α} (key : α → String)
    (distinct : (list.map key).Nodup) :
    (list.mergeSort fun a b => key a ≤ key b).Pairwise fun a b => key a < key b := by
  have same := List.mergeSort_perm list fun a b => key a ≤ key b
  have once := List.pairwise_map.1 ((same.map key).nodup_iff.2 distinct)
  exact ((pairwise_mergeSort_key key list).and once).imp fun ⟨le, ne⟩ =>
    Std.lt_of_le_of_ne le ne

/-- A list can be sorted by a key in one way only, when its elements differ in their keys. -/
theorem mergeSort_key_eq_of_perm {α : Type} {list list' : List α} (key : α → String)
    (distinct : ∀ a ∈ list, ∀ b ∈ list, key a = key b → a = b) (same : list.Perm list') :
    (list.mergeSort fun a b => key a ≤ key b) = list'.mergeSort fun a b => key a ≤ key b := by
  have left := List.mergeSort_perm list fun a b => key a ≤ key b
  have right := List.mergeSort_perm list' fun a b => key a ≤ key b
  refine List.Perm.eq_of_pairwise (fun a b ha hb hab hba => ?_) (pairwise_mergeSort_key key list)
    (pairwise_mergeSort_key key list') ((left.trans same).trans right.symm)
  exact distinct a (left.mem_iff.1 ha) b (same.mem_iff.2 (right.mem_iff.1 hb))
    (String.le_antisymm hab hba)

theorem mergeSort_eq_of_perm {names names' : List String} (same : names.Perm names') :
    names.mergeSort = names'.mergeSort :=
  mergeSort_key_eq_of_perm id (fun _ _ _ _ he => he) same

theorem mergeSort_hostname_eq_of_perm (same : nodes.Perm nodes')
    (distinct : (nodes.map (·.hostname)).Nodup) :
    (nodes.mergeSort fun a b => a.hostname ≤ b.hostname) =
      nodes'.mergeSort fun a b => a.hostname ≤ b.hostname :=
  mergeSort_key_eq_of_perm Node.hostname
    (fun _ ha _ hb he => List.inj_on_of_nodup_map distinct ha hb he) same

/-! ## Going round -/

/-- As many picks as a queue has places go round it once, wherever they begin. -/
theorem perm_of_goes_round {α : Type} {queue picks : List α} (turn : Nat)
    (whole : picks.length = queue.length)
    (follow : ∀ made < picks.length, picks[made]? = queue[(turn + made) % queue.length]?) :
    picks.Perm queue := by
  have round : picks = queue.rotate turn := by
    refine List.ext_getElem? fun made => ?_
    by_cases within : made < picks.length
    · rw [follow made within, List.getElem?_rotate (by rwa [← whole]), Nat.add_comm]
    · have beyond : picks.length ≤ made := Nat.le_of_not_lt within
      rw [List.getElem?_eq_none beyond, List.getElem?_eq_none]
      rwa [List.length_rotate, ← whole]
  rw [round]
  exact List.rotate_perm queue turn

/-! ## Candidates -/

theorem mem_candidates {maxErrors : UInt32} {excluded : List String} {node : Node} :
    node ∈ candidates maxErrors excluded nodes ↔
      node ∈ nodes ∧ node.isAvailable maxErrors ∧ node.hostname ∉ excluded := by
  simp [candidates]

theorem candidates_perm (maxErrors : UInt32) (excluded : List String) (same : nodes.Perm nodes') :
    (candidates maxErrors excluded nodes).Perm (candidates maxErrors excluded nodes') :=
  same.filter _

theorem nodup_hostnames_candidates (maxErrors : UInt32) (excluded : List String)
    (distinct : (nodes.map (·.hostname)).Nodup) :
    ((candidates maxErrors excluded nodes).map (·.hostname)).Nodup :=
  distinct.sublist (List.filter_sublist.map _)

/-! ## Preferred nodes -/

theorem mem_preferred_iff {node : Node} :
    node ∈ preferred nodes ↔ node ∈ nodes ∧ ∀ other ∈ nodes, node.priority ≤ other.priority := by
  unfold preferred
  split
  · next none =>
      rw [List.min?_eq_none_iff, List.map_eq_nil_iff] at none
      simp [none]
  · next best least =>
      obtain ⟨attained, least⟩ := List.min?_eq_some_iff.1 least
      rw [(List.mergeSort_perm _ _).mem_iff, List.mem_filter, beq_iff_eq]
      refine and_congr_right fun listed => ⟨fun own other hother => ?_, fun below => ?_⟩
      · exact own ▸ least _ (List.mem_map_of_mem hother)
      · obtain ⟨other, hother, rfl⟩ := List.mem_map.1 attained
        exact Int32.le_antisymm (below other hother) (least _ (List.mem_map_of_mem listed))

theorem mem_preferred {node : Node} (h : node ∈ preferred nodes) : node ∈ nodes :=
  (mem_preferred_iff.1 h).1

/-- Some node is preferred as soon as there is one. -/
theorem preferred_eq_nil_iff : preferred nodes = [] ↔ nodes = [] := by
  constructor
  · intro none
    unfold preferred at none
    split at none
    · next unbounded => exact List.map_eq_nil_iff.1 (List.min?_eq_none_iff.1 unbounded)
    · next best least =>
        obtain ⟨node, hnode, own⟩ := List.mem_map.1 (List.min?_eq_some_iff.1 least).1
        have kept : node ∈ nodes.filter (·.priority == best) :=
          List.mem_filter.2 ⟨hnode, beq_iff_eq.2 own⟩
        rw [← (List.mergeSort_perm _ _).mem_iff, none] at kept
        cases kept
  · intro none
    rw [none]
    rfl

theorem nodup_hostnames (ordered : nodes.Pairwise fun a b => a.hostname < b.hostname) :
    (nodes.map (·.hostname)).Nodup := by
  refine List.pairwise_map.2 (ordered.imp fun before same => ?_)
  rw [same] at before
  exact String.lt_irrefl _ before

/-- The candidates of the least priority value, in order of hostname. -/
structure IsBest (candidates best : List Node) : Prop where
  ordered : best.Pairwise fun a b => a.hostname < b.hostname
  mem_iff : ∀ node, node ∈ best ↔
    node ∈ candidates ∧ ∀ other ∈ candidates, node.priority ≤ other.priority

namespace IsBest

variable {candidates candidates' best best' : List Node}

theorem nodup (h : IsBest candidates best) : best.Nodup :=
  (nodup_hostnames h.ordered).of_map _

/-- There is one list of the best candidates at most. -/
theorem unique (h : IsBest candidates best) (h' : IsBest candidates best') : best = best' := by
  refine List.Perm.eq_of_pairwise (fun a b _ _ before after => ?_) h.ordered h'.ordered ?_
  · exact absurd after (String.lt_asymm before)
  · rw [List.perm_ext_iff_of_nodup h.nodup h'.nodup]
    exact fun node => (h.mem_iff node).trans (h'.mem_iff node).symm

theorem of_perm (h : IsBest candidates best) (same : candidates.Perm candidates') :
    IsBest candidates' best where
  ordered := h.ordered
  mem_iff node := by
    rw [h.mem_iff, same.mem_iff]
    simp only [same.mem_iff]

theorem length_le (h : IsBest candidates best) : best.length ≤ candidates.length :=
  (List.subperm_of_subset h.nodup fun node hnode => ((h.mem_iff node).1 hnode).1).length_le

end IsBest

/-- A list is the best of the candidates when they are the same without its order. -/
theorem isBest_of_perm {candidates best : List Node}
    (ordered : best.Pairwise fun a b => a.hostname < b.hostname)
    (least : best.Perm (candidates.filter fun node =>
      candidates.all (node.priority ≤ ·.priority))) : IsBest candidates best where
  ordered := ordered
  mem_iff node := by
    rw [least.mem_iff]
    simp

/-- The nodes that count in a selection are the best ones. -/
theorem isBest_preferred (distinct : (nodes.map (·.hostname)).Nodup) :
    IsBest nodes (preferred nodes) where
  ordered := by
    unfold preferred
    split
    · exact .nil
    · exact pairwise_lt_mergeSort_key Node.hostname
        (distinct.sublist (List.filter_sublist.map _))
  mem_iff _ := mem_preferred_iff

/-- The nodes that count are the same in whatever order the candidates come. -/
theorem preferred_eq_of_perm (same : nodes.Perm nodes')
    (distinct : (nodes.map (·.hostname)).Nodup) : preferred nodes = preferred nodes' :=
  ((isBest_preferred distinct).of_perm same).unique
    (isBest_preferred ((same.map _).nodup_iff.1 distinct))

/-! ## Winners -/

theorem mem_of_owner? {slot : Nat} {node : Node} (h : owner? nodes slot = some node) :
    node ∈ nodes := by
  induction nodes generalizing slot with
  | nil => cases h
  | cons first rest ih =>
      unfold owner? at h
      split at h
      · cases h
        exact List.mem_cons_self
      · exact List.mem_cons_of_mem first (ih h)

theorem mem_of_winner? {ticket : UInt64} {node : Node} (h : winner? nodes ticket = some node) :
    node ∈ nodes :=
  mem_of_owner? h

/-- Every ticket falls to some node, as each node owns a slot. -/
theorem winner?_isSome (h : nodes ≠ []) (ticket : UInt64) : (winner? nodes ticket).isSome := by
  obtain ⟨node, rest, rfl⟩ := List.exists_cons_of_ne_nil h
  have first := slots_pos node
  refine owner?_isSome (Nat.mod_lt _ ?_)
  rw [totalSlots]
  omega

end Switchboard.Selection
