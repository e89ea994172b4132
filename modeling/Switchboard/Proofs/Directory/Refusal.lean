import Switchboard.Directory.Backend
import Switchboard.Directory.Operation
import Switchboard.Proofs.Columns.Keyspace

/-! # Refused operations

A command is atomic when a refusal gives back the state it met. The commands in memory
check everything before the first write. On a cluster all writes of a command are in
one batch, and a batch that is refused changes no keyspace.
-/

namespace Switchboard

/-- An answer that was made from a result shows that there was one. -/
theorem ok_of_map {ε α β : Type} {f : α → β} {result : Except ε α} {answer : β}
    (answered : result.map f = .ok answer) : ∃ value, result = .ok value ∧ f value = answer := by
  cases result with
  | error e => cases answered
  | ok value => exact ⟨value, rfl, Except.ok.inj answered⟩

/-- A refusal of the command gives the state back. -/
def Atomic {σ α : Type} (command : Command σ α) : Prop :=
  ∀ s s' e, command s = (.error e, s') → s' = s

theorem atomic_of_total {σ α : Type} {command : Command σ α} {f : σ → α} {g : σ → σ}
    (h : ∀ s, command s = (.ok (f s), g s)) : Atomic command := by
  intro s s' e refused
  rw [h] at refused
  cases refused

theorem Atomic.of_answer {σ α : Type} {command : Command σ α} (h : Atomic command)
    (f : α → Answer) : Atomic fun s => Operation.answer f (command s) := by
  intro s s' e refused
  cases hc : command s with
  | mk result after =>
      cases result with
      | error reason =>
          simp only [Operation.answer, hc, Prod.mk.injEq] at refused
          exact refused.2 ▸ h s after reason hc
      | ok value => simp [Operation.answer, hc, Except.map] at refused

/-- A command on a part of the state, whose rest is left alone. -/
theorem Atomic.of_part {σ τ α : Type} {command : Command σ α} (h : Atomic command)
    (get : τ → σ) (put : τ → σ → τ) (back : ∀ t, put t (get t) = t) :
    Atomic fun t => ((command (get t)).1, put t (command (get t)).2) := by
  intro t t' e refused
  obtain ⟨herror, rfl⟩ := Prod.mk.inj refused
  have hpart := h (get t) (command (get t)).2 e (Prod.ext herror rfl)
  rw [hpart, back]

/-! ## In memory -/

namespace Memory

theorem atomic_onNodes {α : Type} {command : Command Nodes α} (h : Atomic command) :
    Atomic (onNodes command) :=
  h.of_part Memory.nodes (fun m nodes => { m with nodes }) fun _ => rfl

theorem atomic_onCalls {α : Type} {command : Command Calls α} (h : Atomic command) :
    Atomic (onCalls command) :=
  h.of_part Memory.calls (fun m calls => { m with calls }) fun _ => rfl

theorem atomic_onApplications {α : Type} {command : Command Applications α}
    (h : Atomic command) : Atomic (onApplications command) :=
  h.of_part Memory.applications (fun m applications => { m with applications }) fun _ => rfl

theorem Nodes.atomic_store (node : Node) : Atomic (Nodes.store node) := by
  intro nodes nodes' e refused
  unfold Nodes.store at refused
  split at refused
  · cases refused
    rfl
  · split at refused
    · cases refused
      rfl
    · cases refused

theorem Nodes.atomic_update (node : Node) : Atomic (Nodes.update node) := by
  intro nodes nodes' e refused
  unfold Nodes.update at refused
  split at refused
  · cases refused
    rfl
  · split at refused
    · cases refused
      rfl
    · cases refused

theorem Nodes.atomic_remove (hostname : String) : Atomic (Nodes.remove hostname) := by
  intro nodes nodes' e refused
  unfold Nodes.remove at refused
  split at refused
  · cases refused
    rfl
  · cases refused

theorem Calls.atomic_remove (id : String) : Atomic (Calls.remove id) := by
  intro calls calls' e refused
  unfold Calls.remove at refused
  split at refused
  · cases refused
    rfl
  · cases refused

theorem atomic_storeCall (call : Call) : Atomic (Directory.storeCall (σ := Memory) call) := by
  intro m m' e refused
  simp only [Directory.storeCall] at refused
  split at refused
  · cases refused
  · cases refused
    rfl

theorem Applications.atomic_removeClient (jid : String) :
    Atomic (Applications.removeClient jid) := by
  intro apps apps' e refused
  unfold Applications.removeClient at refused
  split at refused
  · cases refused
    rfl
  · cases refused

theorem Applications.atomic_store (app : Application) : Atomic (Applications.store app) := by
  intro apps apps' e refused
  unfold Applications.store at refused
  split at refused
  · cases refused
    rfl
  · cases refused

theorem Applications.atomic_remove (jid : String) : Atomic (Applications.remove jid) := by
  intro apps apps' e refused
  unfold Applications.remove at refused
  split at refused
  · cases refused
    rfl
  · cases refused

theorem Applications.atomic_storeAddresses (addresses : List String) (jid : String) :
    Atomic (Applications.storeAddresses addresses jid) := by
  intro apps apps' e refused
  unfold Applications.storeAddresses at refused
  split at refused
  · cases refused
  · cases refused
    rfl

/-- A refused operation leaves the whole memory as it was. -/
theorem eq_of_refused (op : Operation) : Atomic fun m : Memory => op.run m := by
  cases op with
  | storeNode node => exact (atomic_onNodes (Nodes.atomic_store node)).of_answer _
  | updateNode node => exact (atomic_onNodes (Nodes.atomic_update node)).of_answer _
  | removeNode hostname => exact (atomic_onNodes (Nodes.atomic_remove hostname)).of_answer _
  | storeCall call => exact (atomic_storeCall call).of_answer _
  | removeCall id => exact (atomic_onCalls (Calls.atomic_remove id)).of_answer _
  | storeClient client => exact atomic_of_total fun m => rfl
  | removeClient jid =>
      exact (atomic_onApplications (Applications.atomic_removeClient jid)).of_answer _
  | storeApplication app =>
      exact (atomic_onApplications (Applications.atomic_store app)).of_answer _
  | removeApplication jid =>
      exact (atomic_onApplications (Applications.atomic_remove jid)).of_answer _
  | storeAddress address jid =>
      exact (atomic_onApplications (Applications.atomic_storeAddresses [address] jid)).of_answer _
  | storeAddresses addresses jid =>
      exact (atomic_onApplications (Applications.atomic_storeAddresses addresses jid)).of_answer _
  | removeAddress address => exact atomic_of_total fun m => rfl
  | _ => exact atomic_of_total fun m => rfl

end Memory

/-! ## On a cluster -/

namespace Replicated

/-- The directory keeps everything but the record of the levels that were asked for. -/
def SameData (r r' : Replicated) : Prop :=
  r'.keyspace = r.keyspace ∧
    r'.cluster = { r.cluster with levels := r'.cluster.levels }

theorem SameData.trans {r r' r'' : Replicated} (first : r.SameData r')
    (second : r'.SameData r'') : r.SameData r'' :=
  ⟨second.1.trans first.1, by rw [second.2, first.2]⟩

theorem sameData_noteRead (r : Replicated) : r.SameData r.noteRead :=
  ⟨rfl, Columns.Cluster.noteLevel_eq r.cluster .one⟩

/-- A plan that fails or whose batch is refused changes nothing. -/
theorem sameData_of_carryOut_error {α : Type}
    {plan : Replicated → Except DirectoryError (Plan α)} {r r' : Replicated} {e : DirectoryError}
    (refused : carryOut plan r = (.error e, r')) : r.SameData r' := by
  unfold carryOut at refused
  split at refused
  · cases refused
    exact sameData_noteRead r
  · cases refused
  · next batch context answer _ =>
      split at refused
      · cases refused
      · next reason cluster hexecute =>
          cases refused
          have hcluster := Columns.Cluster.eq_of_execute_error hexecute
          subst hcluster
          exact sameData_noteRead r

theorem sameData_of_answer_error {α : Type} {f : α → Answer}
    {plan : Replicated → Except DirectoryError (Plan α)} {r r' : Replicated} {e : DirectoryError}
    (refused : Operation.answer f (carryOut plan r) = (.error e, r')) : r.SameData r' := by
  cases hc : carryOut plan r with
  | mk result after =>
      cases result with
      | error reason =>
          rw [Operation.answer, hc, Prod.mk.injEq] at refused
          exact refused.2 ▸ sameData_of_carryOut_error hc
      | ok value => simp [Operation.answer, hc, Except.map] at refused

/-- A refused operation leaves every keyspace, the switches and the clock as they were. -/
theorem sameData_of_refused {op : Operation} {r r' : Replicated} {e : DirectoryError}
    (refused : op.run r = (.error e, r')) : r.SameData r' := by
  cases op with
  | storeNode | updateNode | removeNode | storeCall | removeCall | storeClient | removeClient
  | storeApplication | removeApplication | storeAddress | storeAddresses | removeAddress =>
      exact sameData_of_answer_error refused
  | findNode hostname =>
      rw [Operation.run, Prod.mk.injEq] at refused
      exact refused.2 ▸ sameData_noteRead r
  | _ => cases refused

end Replicated

/-! ## Either kind of directory -/

namespace Backend

def SameData : Backend → Backend → Prop
  | memory m, memory m' => m' = m
  | replicated r, replicated r' => r.SameData r'
  | _, _ => False

theorem sameData_refl (b : Backend) : b.SameData b := by
  cases b with
  | memory m => rfl
  | replicated r => exact ⟨rfl, rfl⟩

theorem sameData_noteLookup (b : Backend) : b.SameData (Directory.noteLookup b) := by
  cases b with
  | memory m => rfl
  | replicated r => exact Replicated.sameData_noteRead r

end Backend

/-- Whatever an operation is refused for, nothing of it is left behind: the memory is the same,
and on a cluster all keyspaces are, with their definitions, rows, columns and tombstones. -/
theorem refused_operation_keeps_data (op : Operation) (e : DirectoryError) :
    (∀ m m' : Memory, op.run m = (.error e, m') → m' = m) ∧
      (∀ r r' : Replicated, op.run r = (.error e, r') →
        r'.cluster.keyspaces = r.cluster.keyspaces ∧ r.SameData r') := by
  constructor
  · intro m m' refused
    exact Memory.eq_of_refused op m m' e refused
  · intro r r' refused
    have same := Replicated.sameData_of_refused refused
    refine ⟨?_, same⟩
    rw [same.2]

/-- A hostname that is taken, and a cluster without the keyspace of the directory. -/
theorem refused_operation_keeps_data_of_taken_and_missing :
    let node : Node := ⟨"a", "10.0.0.1", ∅, 1, 1, 0, false⟩
    let m : Memory :=
      { nodes := { byHostname := (∅ : Std.ExtTreeMap String Node).insert "a" node } }
    let r : Replicated := ⟨{}, "rayo"⟩
    ((Operation.storeNode node).run m).2 = m ∧
      ((Operation.storeNode node).run r).2.cluster.keyspaces = r.cluster.keyspaces := by
  intro node m r
  have taken : ((Operation.storeNode node).run m).1 = .error (.alreadyExists .node "a") := by
    simp [Operation.run, Operation.answer, Directory.storeNode, Memory.onNodes,
      Memory.Nodes.store, Except.map, m, node]
  have missing : ((Operation.storeNode node).run r).1 =
      .error (.failure "Could not read [nodes/a]: Keyspace [rayo] not found") := rfl
  constructor
  · exact (refused_operation_keeps_data _ _).1 m _ (Prod.ext taken rfl)
  · exact ((refused_operation_keeps_data _ _).2 r _ (Prod.ext missing rfl)).1

end Switchboard
