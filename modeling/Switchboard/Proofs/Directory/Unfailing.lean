import Switchboard.Directory.Backend
import Switchboard.Proofs.Directory.Holding

/-! # Directories that nothing makes fail

A directory of either kind that starts without records and whose cluster lets every read and
write through stays in order: its tables can be read and written, and they are those of some
records.
-/

namespace Switchboard

open Switchboard.Columns
open Replicated (Consistent Event)

def Replicated.Event.Quiet : Event → Prop
  | .failReads fail | .failWrites fail => fail = false
  | _ => True

namespace Backend

def Unfailing : Backend → Prop
  | memory _ => True
  | replicated r => r.cluster.failReads = false ∧ r.cluster.failWrites = false

/-- Reads and writes go through, and the tables are those of some records. -/
def InOrder : Backend → Prop
  | memory _ => True
  | replicated r => r.Live ∧ Consistent r.contents

variable {b : Backend}

theorem Fresh.inOrder (fresh : b.Fresh) (unfailing : b.Unfailing) : b.InOrder := by
  cases fresh with
  | memory => trivial
  | replicated empty opened =>
      obtain ⟨ready, blank, -⟩ := Replicated.ready_of_openOn empty opened
      exact ⟨⟨ready, unfailing.1, unfailing.2⟩, Replicated.consistent_empty blank⟩

theorem InOrder.run (inOrder : b.InOrder) (op : Operation) : (op.run b).2.InOrder := by
  cases b with
  | memory m =>
      rw [run_memory]
      trivial
  | replicated r =>
      rw [run_replicated]
      exact inOrder.1.run inOrder.2 op

theorem InOrder.noteLookup (inOrder : b.InOrder) : (Directory.noteLookup b).InOrder := by
  cases b with
  | memory m => trivial
  | replicated r =>
      have same := Replicated.contents_noteRead r
      exact ⟨inOrder.1.noteRead, same.symm ▸ inOrder.2⟩

/-- The clock and the switches play no part as long as nothing is made to fail. -/
theorem InOrder.of_keyspaces {r : Replicated} (inOrder : (replicated r).InOrder)
    {cluster : Cluster} (same : cluster.keyspaces = r.cluster.keyspaces)
    (reads : cluster.failReads = false) (writes : cluster.failWrites = false) :
    (replicated { r with cluster }).InOrder := by
  obtain ⟨live, consistent⟩ := inOrder
  obtain ⟨keyspace, ready⟩ := live.ready
  have contents : ({ r with cluster } : Replicated).contents = r.contents := by
    simp [Replicated.contents, same]
  refine ⟨⟨⟨keyspace, ?_, ready.orderly, ready.graces⟩, reads, writes⟩, contents ▸ consistent⟩
  simpa [same] using ready.stored

theorem InOrder.after (inOrder : b.InOrder) {event : Event} (quiet : event.Quiet) :
    (b.after event).InOrder := by
  cases b with
  | memory m => cases event <;> trivial
  | replicated r =>
      cases event with
      | operation op => exact inOrder.1.run inOrder.2 op
      | advance ms => exact inOrder.of_keyspaces rfl inOrder.1.reads inOrder.1.writes
      | failReads fail => exact inOrder.of_keyspaces rfl quiet inOrder.1.writes
      | failWrites fail => exact inOrder.of_keyspaces rfl inOrder.1.reads quiet

end Backend

end Switchboard
