import Mathlib.Data.List.Count
import Switchboard.Proofs.Gateway.Selection

/-! # Slots laid end to end

The slots of some nodes make up a line that names the owner of each, and a ticket falls to
the owner at its place. The walk over the slots can be made in machine words: for fewer
than 2^32 nodes nothing overflows, the total is not zero and the walk ends on a slot.
-/

namespace Switchboard.Selection

variable {nodes : List Node} {node : Node}

/-! ## The line of slots -/

/-- The owners of the slots, each as often as it owns one, in the order of the nodes. -/
def line (nodes : List Node) : List Node :=
  nodes.flatMap fun node => List.replicate (slots node) node

theorem line_cons (node : Node) (rest : List Node) :
    line (node :: rest) = List.replicate (slots node) node ++ line rest := rfl

@[simp] theorem length_line (nodes : List Node) : (line nodes).length = totalSlots nodes := by
  induction nodes with
  | nil => rfl
  | cons node rest ih => rw [line_cons, List.length_append, List.length_replicate, ih, totalSlots]

/-- The walk over the slots ends on the owner at that place of the line. -/
theorem owner?_eq_getElem? (nodes : List Node) (slot : Nat) :
    owner? nodes slot = (line nodes)[slot]? := by
  induction nodes generalizing slot with
  | nil => rfl
  | cons node rest ih =>
      rw [owner?, line_cons, List.getElem?_append, List.length_replicate]
      split
      · next own => rw [List.getElem?_replicate, if_pos own]
      · exact ih _

theorem winner?_eq_getElem? (nodes : List Node) (turn : UInt64) :
    winner? nodes turn = (line nodes)[turn.toNat % totalSlots nodes]? :=
  owner?_eq_getElem? nodes _

/-- A node has as many places in the line as it owns slots. -/
theorem count_line (distinct : nodes.Nodup) (node : Node) :
    (line nodes).count node = if node ∈ nodes then slots node else 0 := by
  induction nodes with
  | nil => rfl
  | cons first rest ih =>
      obtain ⟨new, distinct⟩ := List.nodup_cons.1 distinct
      rw [line_cons, List.count_append, ih distinct, List.count_replicate]
      by_cases own : first = node
      · subst own
        simp [new]
      · simp [own, Ne.symm own]

theorem totalSlots_pos (nonempty : nodes ≠ []) : 0 < totalSlots nodes := by
  obtain ⟨node, rest, rfl⟩ := List.exists_cons_of_ne_nil nonempty
  exact Nat.add_pos_left (slots_pos node) _

/-! ## In machine words -/

/-- What can go wrong in machine words on the way to the owner of a slot. -/
inductive Fault
  | overflow
  | divisionByZero
  | underflow
  /-- The walk passed the last slot. -/
  | pastEnd
deriving DecidableEq

namespace Word

def add (a b : UInt64) : Except Fault UInt64 :=
  if a.toNat + b.toNat < UInt64.size then .ok (a + b) else .error .overflow

def sub (a b : UInt64) : Except Fault UInt64 :=
  if b ≤ a then .ok (a - b) else .error .underflow

def mod (a b : UInt64) : Except Fault UInt64 :=
  if b = 0 then .error .divisionByZero else .ok (a % b)

def slots (node : Node) : UInt64 :=
  (max node.weight 1).toInt64.toUInt64

/-- The slots of some nodes on top of a sum. -/
def total (sum : UInt64) : List Node → Except Fault UInt64
  | [] => .ok sum
  | node :: rest => do
    let sum ← add sum (slots node)
    total sum rest

def walk (slot : UInt64) : List Node → Except Fault Node
  | [] => .error .pastEnd
  | node :: rest =>
    if slot < slots node then .ok node
    else do
      let slot ← sub slot (slots node)
      walk slot rest

def winner (nodes : List Node) (turn : UInt64) : Except Fault Node := do
  let total ← total 0 nodes
  let slot ← mod turn total
  walk slot nodes

end Word

theorem slots_lt (node : Node) : slots node < UInt32.size := by
  have below := (max node.weight 1).toInt_lt
  have size : UInt32.size = 2 ^ 32 := rfl
  unfold slots
  omega

theorem totalSlots_le (nodes : List Node) : totalSlots nodes ≤ nodes.length * UInt32.size := by
  induction nodes with
  | nil => exact Nat.zero_le _
  | cons node rest ih =>
      rw [totalSlots, List.length_cons, Nat.succ_mul, Nat.add_comm]
      exact Nat.add_le_add ih (Nat.le_of_lt (slots_lt node))

theorem totalSlots_lt (few : nodes.length < UInt32.size) : totalSlots nodes < UInt64.size :=
  calc totalSlots nodes ≤ nodes.length * UInt32.size := totalSlots_le nodes
    _ < UInt32.size * UInt32.size := Nat.mul_lt_mul_of_pos_right few (by decide)
    _ = UInt64.size := rfl

namespace Word

theorem toNat_slots (node : Node) : (slots node).toNat = Selection.slots node := by
  have positive := slots_pos node
  have least : 0 ≤ (max node.weight 1).toInt64 := by
    rw [Selection.slots] at positive
    rw [Int64.le_iff_toInt_le, Int32.toInt_toInt64]
    change 0 ≤ _
    omega
  rw [slots, Int64.toNat_toUInt64_of_le least, Int32.toNatClampNeg_toInt64]
  rfl

/-- A sum that fits in a word is the number of slots. -/
theorem total_eq {sum : UInt64} (fits : sum.toNat + totalSlots nodes < UInt64.size) :
    ∃ all, total sum nodes = .ok all ∧ all.toNat = sum.toNat + totalSlots nodes := by
  induction nodes generalizing sum with
  | nil => exact ⟨sum, rfl, rfl⟩
  | cons node rest ih =>
      rw [totalSlots, ← Nat.add_assoc] at fits ⊢
      have first : sum.toNat + (slots node).toNat < UInt64.size := by
        rw [toNat_slots]
        omega
      have added : (sum + slots node).toNat = sum.toNat + Selection.slots node := by
        rw [UInt64.toNat_add, Nat.mod_eq_of_lt first, toNat_slots]
      rw [total, add, if_pos first, ← added]
      exact ih (added ▸ fits)

/-- The walk subtracts no more than is left, and it passes the end only when no node owns the
slot. -/
theorem walk_eq (nodes : List Node) (slot : UInt64) :
    walk slot nodes = (owner? nodes slot.toNat).elim (.error .pastEnd) .ok := by
  induction nodes generalizing slot with
  | nil => rfl
  | cons node rest ih =>
      have own : slot < slots node ↔ slot.toNat < Selection.slots node := by
        rw [UInt64.lt_iff_toNat_lt, toNat_slots]
      rw [walk, owner?]
      by_cases within : slot < slots node
      · rw [if_pos within, if_pos (own.1 within)]
        rfl
      · have enough : slots node ≤ slot := UInt64.not_lt.1 within
        rw [if_neg within, if_neg (mt own.2 within), sub, if_pos enough]
        change walk (slot - slots node) rest = _
        rw [ih, UInt64.toNat_sub_of_le _ _ enough, toNat_slots]

/-- In machine words a ticket falls to the same node, and nothing goes wrong. -/
theorem winner_eq (nonempty : nodes ≠ []) (few : nodes.length < UInt32.size) (turn : UInt64) :
    ∃ node, winner nodes turn = .ok node ∧ winner? nodes turn = some node := by
  obtain ⟨node, won⟩ := Option.isSome_iff_exists.1 (winner?_isSome nonempty turn)
  have fits : (0 : UInt64).toNat + totalSlots nodes < UInt64.size := by
    rw [UInt64.toNat_zero, Nat.zero_add]
    exact totalSlots_lt few
  obtain ⟨all, summed, value⟩ := total_eq fits
  rw [UInt64.toNat_zero, Nat.zero_add] at value
  have divides : all ≠ 0 := by
    rintro rfl
    exact Nat.ne_of_lt (totalSlots_pos nonempty) value
  refine ⟨node, ?_, won⟩
  rw [winner, summed]
  change (mod turn all >>= fun slot => walk slot nodes) = _
  rw [mod, if_neg divides]
  change walk (turn % all) nodes = _
  rw [walk_eq, UInt64.toNat_mod, value]
  rw [winner?] at won
  rw [won]
  rfl

end Word

end Switchboard.Selection
