import Switchboard.Directory.Operation
import Switchboard.Proofs.Directory.Replicated.Access

/-! # Histories of a directory on a cluster

Between the operations of a history time may pass and the switches of the cluster may
be turned. An operation writes at most the one batch that it has planned, so what every
planned batch keeps holds throughout a history.
-/

namespace Switchboard.Replicated

open Switchboard.Columns

inductive Event where
  | operation (op : Operation)
  | advance (span : Duration)
  | failReads (fail : Bool)
  | failWrites (fail : Bool)

def after (r : Replicated) : Event → Replicated
  | .operation op => (op.run r).2
  | .advance span => { r with cluster := r.cluster.advance span }
  | .failReads fail => { r with cluster := { r.cluster with failReads := fail } }
  | .failWrites fail => { r with cluster := { r.cluster with failWrites := fail } }

def afterAll (r : Replicated) (events : List Event) : Replicated :=
  events.foldl after r

/-! ## The batch of an operation -/

def Writes (r : Replicated) (batch : Batch) : Operation → Prop
  | .storeNode node => Plans (planStoreNode node) r batch
  | .updateNode node => Plans (planUpdateNode node) r batch
  | .removeNode hostname => Plans (planRemoveNode hostname) r batch
  | .storeCall call => Plans (planStoreCall call) r batch
  | .removeCall id => Plans (planRemoveCall id) r batch
  | .storeClient client => Plans (planStoreClient client) r batch
  | .removeClient jid => Plans (planRemoveClient jid) r batch
  | .storeApplication app => Plans (planStoreApplication app) r batch
  | .removeApplication jid => Plans (planRemoveApplication jid) r batch
  | .storeAddress address jid => Plans (planStoreAddresses [address] jid) r batch
  | .storeAddresses addresses jid => Plans (planStoreAddresses addresses jid) r batch
  | .removeAddress address => Plans (planRemoveAddress address) r batch
  | _ => False

/-- The directory after one entry is ready, and it has the contents from before or those after a
batch. -/
def Follows (r r' : Replicated) (written : Batch → Prop) : Prop :=
  (∃ keyspace, r'.Ready keyspace) ∧ r.SameSwitches r' ∧
    (r'.contents = r.contents ∨
      ∃ batch, written batch ∧ r'.contents = r.contents.applyAll batch)

variable {r : Replicated} {keyspace : Keyspace}

theorem follows_noteRead (ready : r.Ready keyspace) (written : Batch → Prop) :
    r.Follows r.noteRead written :=
  ⟨⟨keyspace, ready.noteRead⟩, sameSwitches_noteRead r, Or.inl (contents_noteRead r)⟩

theorem follows_carryOut {α : Type} {plan : Replicated → Except DirectoryError (Plan α)}
    (ready : r.Ready keyspace)
    (named : ∀ batch, Plans plan r batch → Contents.Within tableNames batch) :
    r.Follows (carryOut plan r).2 (Plans plan r) := by
  obtain ⟨keyspace', ready', same, hcontents⟩ :=
    ready.carryOut_cases fun batch context answer hp => named batch ⟨context, answer, hp⟩
  refine ⟨⟨keyspace', ready'⟩, same, ?_⟩
  rcases hcontents with kept | ⟨batch, context, answer, hp, -, written⟩
  · exact Or.inl kept
  · exact Or.inr ⟨batch, ⟨context, answer, hp⟩, written⟩

/-- An operation writes at most the batch of its plan. -/
theorem follows_run (ready : r.Ready keyspace) (op : Operation)
    (named : ∀ batch, r.Writes batch op → Contents.Within tableNames batch) :
    r.Follows (op.run r).2 (r.Writes · op) := by
  cases op with
  | storeNode | updateNode | removeNode | storeCall | removeCall | storeClient | removeClient
  | storeApplication | removeApplication | storeAddress | storeAddresses | removeAddress =>
      exact follows_carryOut ready named
  | _ => exact follows_noteRead ready _

/-! ## Invariants -/

/-- What the batches of all operations of some kind keep, beginning with these contents. -/
def Kept (holds : Contents → Prop) (allowed : Operation → Prop) : Prop :=
  ∀ (r : Replicated) (keyspace : Keyspace) (op : Operation) (batch : Batch), r.Ready keyspace →
    holds r.contents → allowed op → r.Writes batch op →
      Contents.Within tableNames batch ∧ holds (r.contents.applyAll batch)

variable {holds : Contents → Prop} {allowed : Operation → Prop}

theorem Kept.run (kept : Kept holds allowed) (ready : r.Ready keyspace) (h : holds r.contents)
    {op : Operation} (permitted : allowed op) :
    (∃ keyspace', (op.run r).2.Ready keyspace') ∧ r.SameSwitches (op.run r).2 ∧
      holds (op.run r).2.contents := by
  obtain ⟨ready', same, hcontents⟩ := follows_run ready op fun batch hw =>
    (kept r keyspace op batch ready h permitted hw).1
  refine ⟨ready', same, ?_⟩
  rcases hcontents with unchanged | ⟨batch, hw, written⟩
  · rw [unchanged]
    exact h
  · rw [written]
    exact (kept r keyspace op batch ready h permitted hw).2

theorem Kept.after (kept : Kept holds allowed) (ready : r.Ready keyspace) (h : holds r.contents)
    {event : Event} (permitted : ∀ op, event = .operation op → allowed op) :
    (∃ keyspace', (r.after event).Ready keyspace') ∧ holds (r.after event).contents := by
  cases event with
  | operation op =>
      have hrun := kept.run ready h (permitted op rfl)
      exact ⟨hrun.1, hrun.2.2⟩
  | advance => exact ⟨⟨keyspace, ready.stored, ready.orderly, ready.graces⟩, h⟩
  | failReads fail => exact ⟨⟨keyspace, ready.stored, ready.orderly, ready.graces⟩, h⟩
  | failWrites fail => exact ⟨⟨keyspace, ready.stored, ready.orderly, ready.graces⟩, h⟩

/-- What every planned batch keeps holds after every history. -/
theorem Kept.afterAll (kept : Kept holds allowed) (ready : r.Ready keyspace)
    (h : holds r.contents) {events : List Event}
    (permitted : ∀ op, .operation op ∈ events → allowed op) :
    (∃ keyspace', (r.afterAll events).Ready keyspace') ∧ holds (r.afterAll events).contents := by
  induction events generalizing r keyspace with
  | nil => exact ⟨⟨keyspace, ready⟩, h⟩
  | cons event rest ih =>
      obtain ⟨⟨keyspace', ready'⟩, h'⟩ := kept.after ready h fun op he =>
        permitted op (he ▸ List.mem_cons_self)
      exact ih ready' h' fun op hop => permitted op (List.mem_cons_of_mem event hop)

end Switchboard.Replicated
