import Switchboard.Proofs.Directory.Clients
import Switchboard.Proofs.Directory.Refusal

/-! # Directories whose reads or writes fail

Most look-ups take a failing read for an absent record; the search for a node is refused. What
needs a write is refused where writes fail. A refusal leaves everything that is stored as it was.
-/

namespace Switchboard.Backend

open Records (NodeMap)

def failsReads : Backend → Bool
  | memory _ => false
  | replicated r => r.cluster.failReads

def failsWrites : Backend → Bool
  | memory _ => false
  | replicated r => r.cluster.failWrites

/-- The directory with its reads let through, which shows what is stored. -/
def readable (b : Backend) : Backend :=
  b.after (.failReads false)

variable {b : Backend} {nodes : NodeMap}

theorem readable_of_reads (reads : b.failsReads = false) : b.readable = b := by
  cases b with
  | memory m => rfl
  | replicated r =>
      change replicated { r with cluster := { r.cluster with failReads := false } } = replicated r
      rw [show false = r.cluster.failReads from reads.symm]

theorem failsReads_noteLookup (b : Backend) :
    (Directory.noteLookup b).failsReads = b.failsReads := by
  cases b with
  | memory m => rfl
  | replicated r => exact (Replicated.sameSwitches_noteRead r).failReads

theorem failsWrites_noteLookup (b : Backend) :
    (Directory.noteLookup b).failsWrites = b.failsWrites := by
  cases b with
  | memory m => rfl
  | replicated r => exact (Replicated.sameSwitches_noteRead r).failWrites

/-- Nothing is left behind by an operation that is refused after a look into the directory. -/
theorem sameData_of_refused {op : Operation} {e : DirectoryError}
    (refused : (op.run (Directory.noteLookup b)).1 = .error e) :
    b.SameData (op.run (Directory.noteLookup b)).2 := by
  cases b with
  | memory m =>
      change (op.run (memory m)).1 = .error e at refused
      change (memory m).SameData (op.run (memory m)).2
      rw [run_memory] at refused ⊢
      exact Memory.eq_of_refused op m (op.run m).2 e (Prod.ext refused rfl)
  | replicated r =>
      change (op.run (replicated r.noteRead)).1 = .error e at refused
      change (replicated r).SameData (op.run (replicated r.noteRead)).2
      rw [run_replicated] at refused ⊢
      exact (Replicated.sameData_noteRead r).trans
        (Replicated.sameData_of_refused (Prod.ext refused rfl))

/-! ## Reads -/

theorem Holds.findNode_of_failsReads (holds : b.Holds nodes) (fails : b.failsReads = true)
    (hostname : String) : ∃ e, Directory.findNode hostname b = .error e := by
  cases b with
  | memory m => cases fails
  | replicated r =>
      obtain ⟨⟨keyspace, ready⟩, -, -⟩ := holds
      obtain ⟨e, unread⟩ := ready.fetch_of_failReads
        (show Replicated.Layout.nodes ∈ Replicated.tableNames by decide) fails hostname
      refine ⟨e, ?_⟩
      change r.fetchNode hostname = .error e
      rw [Replicated.fetchNode, unread]
      rfl

/-- An application that cannot be read counts as absent. -/
theorem Holds.getApplication?_of_failsReads (holds : b.Holds nodes)
    (fails : b.failsReads = true) (jid : String) : Directory.getApplication? jid b = none := by
  cases b with
  | memory m => cases fails
  | replicated r =>
      obtain ⟨⟨keyspace, ready⟩, -, -⟩ := holds
      obtain ⟨e, unread⟩ := ready.fetch_of_failReads
        (show Replicated.Layout.applications ∈ Replicated.tableNames by decide) fails jid
      change Replicated.Layout.application? jid (r.columns Replicated.Layout.applications jid) = _
      rw [Replicated.columns, unread]
      rfl

/-! ## Writes -/

/-- A client is stored whether or not reads fail. -/
theorem Holds.storeClient_of_writes (holds : b.Holds nodes) (writes : b.failsWrites = false)
    (jid platform : String) :
    let (result, b') := Directory.storeClient (Client.ofJid jid platform) b
    result = .ok (.ofJid jid platform) ∧
      Directory.getClient? jid b'.readable = some (.ofJid jid platform) := by
  cases b with
  | memory m => exact ⟨rfl, Std.ExtTreeMap.getElem?_insert_self⟩
  | replicated r =>
      obtain ⟨⟨keyspace, ready⟩, -, -⟩ := holds
      obtain ⟨r', keyspace', hrun, ready', same, cell⟩ :=
        Replicated.storeClient_of_writes ready writes (.ofJid jid platform)
      rw [storeClient_replicated, hrun]
      refine ⟨rfl, ?_⟩
      have shown : (r'.after (.failReads false)).Ready keyspace' :=
        ⟨ready'.stored, ready'.orderly, ready'.graces⟩
      exact (Replicated.getClient?_eq shown rfl jid).trans
        (congrArg (Option.map (Client.ofJid jid)) cell)

theorem Holds.storeClient_of_failsWrites (holds : b.Holds nodes) (fails : b.failsWrites = true)
    (client : Client) : ∃ e, (Directory.storeClient client b).1 = .error e := by
  cases b with
  | memory m => cases fails
  | replicated r =>
      obtain ⟨⟨keyspace, ready⟩, -, -⟩ := holds
      exact Replicated.storeClient_of_failWrites ready fails client

/-- No update of a node comes without a write. -/
theorem Holds.updateNode_of_failsWrites (holds : b.Holds nodes) (fails : b.failsWrites = true)
    (node : Node) : ∃ e, (Directory.updateNode node b).1 = .error e := by
  cases b with
  | memory m => cases fails
  | replicated r =>
      obtain ⟨⟨keyspace, ready⟩, -, stored⟩ := holds
      change ∃ e, (Replicated.carryOut (Replicated.planUpdateNode node) r).1 = .error e
      -- Whether reads work decides only how far the update comes before it is refused.
      cases reads : r.cluster.failReads with
      | true =>
          obtain ⟨e, unread⟩ := ready.fetch_of_failReads
            (show Replicated.Layout.nodes ∈ Replicated.tableNames by decide) reads node.hostname
          rw [Replicated.carryOut_of_error (Replicated.planUpdateNode_of_unread unread)]
          exact ⟨e, rfl⟩
      | false =>
          rcases Replicated.planUpdateNode_cases ready reads stored node with
            ⟨previous, known, free⟩ | ⟨e, refused⟩
          · have plan := Replicated.planUpdateNode_eq ready reads stored node
            simp only [known, if_neg free] at plan
            have named := (Replicated.within_replaceNode
              (Replicated.Layout.readBack previous) node).mono Replicated.nodeTables_subset
            rw [ready.carryOut_of_failWrites plan named fails]
            exact ⟨_, rfl⟩
          · rw [Replicated.carryOut_of_error refused]
            exact ⟨e, rfl⟩

end Switchboard.Backend
