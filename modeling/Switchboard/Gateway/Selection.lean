import Switchboard.Directory.Record

/-! # Choosing a node

Of the nodes that may take a call only those of the lowest priority value count.
In order of hostname each of them owns `max weight 1` consecutive slots, and a
ticket, taken modulo the number of slots, falls to the owner of its slot.
-/

namespace Switchboard.Selection

def slots (node : Node) : Nat :=
  (max node.weight 1).toInt.toNat

def candidates (maxErrors : UInt32) (excluded : List String) (nodes : List Node) : List Node :=
  nodes.filter fun node => node.isAvailable maxErrors && !excluded.contains node.hostname

/-- The nodes of the lowest priority value, in order of hostname. -/
def preferred (nodes : List Node) : List Node :=
  match (nodes.map (·.priority)).min? with
  | none => []
  | some best =>
    (nodes.filter (·.priority == best)).mergeSort fun a b => a.hostname ≤ b.hostname

def totalSlots : List Node → Nat
  | [] => 0
  | node :: rest => slots node + totalSlots rest

/-- The owner of a slot, when the nodes own their slots one after the other. -/
def owner? : List Node → Nat → Option Node
  | [], _ => none
  | node :: rest, slot =>
    if slot < slots node then some node else owner? rest (slot - slots node)

def winner? (nodes : List Node) (ticket : UInt64) : Option Node :=
  owner? nodes (ticket.toNat % totalSlots nodes)

theorem slots_pos (node : Node) : 0 < slots node := by
  have h : (1 : Int32).toInt ≤ (max node.weight 1).toInt := by
    simp only [max, Int32.le_iff_toInt_le]
    split <;> omega
  have one : (1 : Int32).toInt = 1 := rfl
  simp only [slots]
  omega

theorem owner?_isSome {nodes : List Node} {slot : Nat} (h : slot < totalSlots nodes) :
    (owner? nodes slot).isSome := by
  induction nodes generalizing slot with
  | nil => simp [totalSlots] at h
  | cons node rest ih =>
    unfold owner?
    split
    · rfl
    · apply ih
      simp only [totalSlots] at h
      omega

end Switchboard.Selection
