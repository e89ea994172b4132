import Switchboard.Proofs.Directory.Equivalence
import Switchboard.Proofs.Directory.Holding
import Switchboard.Proofs.Directory.Memory.Lookups

/-! # Directories of both kinds with the same records

What a gateway asks of its directory is answered alike by a directory in memory and by one
on a cluster that holds the same records. Only the nodes of a platform and the resources of
a client may come in different orders, each node and each resource once.
-/

namespace Switchboard

open Replicated (Event)
open RawJid (NoBareSlash)

/-- One directory is in memory, the other on a cluster that lets everything through, and they hold
the same records. -/
inductive Backend.SameRecords : Backend → Backend → Prop
  | intro {m : Memory} {r : Replicated} :
      Mirrors m r → SameRecords (.memory m) (.replicated r)

/-- An admissible operation, or time that passes; nothing is made to fail. -/
def Replicated.Event.Admissible : Event → Prop
  | .operation op => op.Admissible
  | .advance _ => True
  | .failReads fail | .failWrites fail => fail = false

namespace Backend

variable {b b' : Backend}

def SameResult {α : Type} (left right : Except DirectoryError α × Backend) : Prop :=
  left.1 = right.1 ∧ left.2.SameRecords right.2

theorem SameRecords.noteLookup (same : b.SameRecords b') :
    (Directory.noteLookup b).SameRecords (Directory.noteLookup b') := by
  obtain ⟨mirrors⟩ := same
  exact ⟨mirrors.noteRead⟩

theorem SameRecords.run (same : b.SameRecords b') {op : Operation} (admissible : op.Admissible) :
    op.Agrees (op.run b).1 (op.run b').1 ∧ (op.run b).2.SameRecords (op.run b').2 := by
  obtain ⟨mirrors⟩ := same
  have alike := mirrors.alike admissible
  rw [run_memory, run_replicated]
  exact ⟨alike.1, ⟨alike.2⟩⟩

theorem SameRecords.after (same : b.SameRecords b') {event : Event}
    (admissible : event.Admissible) : (b.after event).SameRecords (b'.after event) := by
  cases event with
  | operation op =>
      rw [after_operation, after_operation]
      exact (same.run admissible).2
  | advance span =>
      obtain ⟨mirrors⟩ := same
      exact ⟨mirrors.advance span⟩
  | failReads fail =>
      obtain @⟨m, r, mirrors⟩ := same
      obtain rfl : fail = false := admissible
      obtain ⟨keyspace, ready⟩ := mirrors.live.ready
      have ready' : (r.after (.failReads false)).Ready keyspace :=
        ⟨ready.stored, ready.orderly, ready.graces⟩
      exact ⟨mirrors.of_contents_eq ⟨⟨keyspace, ready'⟩, rfl, mirrors.live.writes⟩ rfl⟩
  | failWrites fail =>
      obtain @⟨m, r, mirrors⟩ := same
      obtain rfl : fail = false := admissible
      obtain ⟨keyspace, ready⟩ := mirrors.live.ready
      have ready' : (r.after (.failWrites false)).Ready keyspace :=
        ⟨ready.stored, ready.orderly, ready.graces⟩
      exact ⟨mirrors.of_contents_eq ⟨⟨keyspace, ready'⟩, mirrors.live.reads, rfl⟩ rfl⟩

theorem SameRecords.afterAll (same : b.SameRecords b') {events : List Event}
    (admissible : ∀ event ∈ events, event.Admissible) :
    (b.afterAll events).SameRecords (b'.afterAll events) := by
  induction events generalizing b b' with
  | nil => exact same
  | cons event rest ih =>
      exact ih (same.after (admissible event List.mem_cons_self)) fun later hlater =>
        admissible later (List.mem_cons_of_mem event hlater)

/-! ## Commands -/

theorem SameRecords.storeNode (same : b.SameRecords b') {node : Node} (plain : node.HasPlainNames) :
    SameResult (Directory.storeNode node b) (Directory.storeNode node b') := by
  obtain ⟨mirrors⟩ := same
  have alike := Mirror.matches_storeNode mirrors.live mirrors.nodes plain
  exact ⟨alike.result, ⟨mirrors.onNodes alike⟩⟩

theorem SameRecords.updateNode (same : b.SameRecords b') {node : Node}
    (plain : node.HasPlainNames) :
    SameResult (Directory.updateNode node b) (Directory.updateNode node b') := by
  obtain ⟨mirrors⟩ := same
  have alike := Mirror.matches_updateNode mirrors.live mirrors.nodes plain
  exact ⟨alike.result, ⟨mirrors.onNodes alike⟩⟩

theorem SameRecords.storeClient (same : b.SameRecords b') {jid : String} (hjid : NoBareSlash jid)
    (platform : String) :
    SameResult (Directory.storeClient (Client.ofJid jid platform) b)
      (Directory.storeClient (Client.ofJid jid platform) b') := by
  obtain ⟨mirrors⟩ := same
  have alike := Mirror.matches_storeClient mirrors.live mirrors.applications
    (show Client.ofJid jid platform = _ from rfl) hjid
  exact ⟨alike.result, ⟨mirrors.onApplications alike (by decide)⟩⟩

/-! ## Look-ups -/

theorem SameRecords.getNode? (same : b.SameRecords b') (hostname : String) :
    Directory.getNode? hostname b = Directory.getNode? hostname b' := by
  obtain ⟨mirrors⟩ := same
  exact (Mirror.node?_mirrored mirrors.live mirrors.nodes hostname).symm

theorem SameRecords.findNode (same : b.SameRecords b') (hostname : String) :
    Directory.findNode hostname b = Directory.findNode hostname b' := by
  obtain ⟨mirrors⟩ := same
  exact (Mirror.fetchNode_mirrored mirrors.live mirrors.nodes hostname).symm

/-- Every node that is shown has platforms with plain names. -/
theorem SameRecords.plain (same : b.SameRecords b') {hostname : String} {node : Node}
    (found : Directory.getNode? hostname b = some node) : node.HasPlainNames := by
  obtain ⟨mirrors⟩ := same
  exact mirrors.nodes.plain hostname node found

theorem SameRecords.nodesForPlatform (same : b.SameRecords b') (platform : String) :
    (Directory.nodesForPlatform platform b).Perm (Directory.nodesForPlatform platform b') ∧
      ((Directory.nodesForPlatform platform b).map (·.hostname)).Nodup := by
  obtain ⟨mirrors⟩ := same
  exact ⟨Mirror.nodesForPlatform_mirrored mirrors.live mirrors.nodes platform,
    mirrors.nodes.exact.nodup_hostnames_forPlatform platform⟩

/-- Every node that is listed for a platform has platforms with plain names. -/
theorem SameRecords.plain_of_mem (same : b.SameRecords b') {platform : String} {node : Node}
    (listed : node ∈ Directory.nodesForPlatform platform b) : node.HasPlainNames := by
  obtain ⟨mirrors⟩ := same
  obtain ⟨hostname, -, found⟩ := List.mem_filterMap.1 listed
  exact mirrors.nodes.plain hostname node found

theorem SameRecords.platforms (same : b.SameRecords b') :
    Directory.platforms b = Directory.platforms b' := by
  obtain ⟨mirrors⟩ := same
  exact Mirror.platforms_mirrored mirrors.live mirrors.nodes

theorem SameRecords.nodeForCall? (same : b.SameRecords b') (id : String) :
    Directory.nodeForCall? id b = Directory.nodeForCall? id b' := by
  obtain ⟨mirrors⟩ := same
  exact congrArg (Option.map Call.node)
    (Mirror.getCall?_mirrored mirrors.live mirrors.calls id).symm

theorem SameRecords.calls (same : b.SameRecords b') :
    Directory.calls b = Directory.calls b' := by
  obtain ⟨mirrors⟩ := same
  exact Mirror.calls_mirrored mirrors.live mirrors.calls

theorem SameRecords.clients (same : b.SameRecords b') :
    Directory.clients b = Directory.clients b' := by
  obtain ⟨mirrors⟩ := same
  exact Mirror.clients_mirrored mirrors.live mirrors.applications

theorem SameRecords.clientResources (same : b.SameRecords b') (jid : String) :
    (Directory.clientResources jid b).Perm (Directory.clientResources jid b') := by
  obtain ⟨mirrors⟩ := same
  exact Mirror.clientResources_mirrored mirrors.live mirrors.applications jid

theorem SameRecords.getClient? (same : b.SameRecords b') {jid : String} (hjid : NoBareSlash jid) :
    Directory.getClient? jid b = Directory.getClient? jid b' := by
  obtain ⟨mirrors⟩ := same
  exact (Mirror.getClient?_mirrored mirrors.live mirrors.applications hjid).symm

theorem SameRecords.getApplication? (same : b.SameRecords b') (jid : String) :
    Directory.getApplication? jid b = Directory.getApplication? jid b' := by
  obtain ⟨mirrors⟩ := same
  exact (Mirror.application?_mirrored mirrors.live mirrors.applications jid).symm

end Backend

end Switchboard
