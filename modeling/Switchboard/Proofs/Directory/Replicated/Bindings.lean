import Switchboard.Proofs.Directory.Registry
import Switchboard.Proofs.Directory.Replicated.Consistency

/-! # Address bindings in the tables

A directory on a cluster that nothing makes fail answers as its registry does. A command is
judged by what its plan comes to, and commands of the other families write to other tables.
-/

namespace Switchboard.Replicated

open Switchboard.Columns Switchboard.Records

variable {α : Type} {r : Replicated} {reg : Registry} {op : Operation}

def Registered (reg : Registry) (contents : Contents) : Prop :=
  ApplicationsStored reg.applications reg.owners contents

/-- What a plan comes to is answered as the registry has it, and leaves the tables of the registry
after it. -/
def Explains (reg : Registry) (op : Operation) (f : α → Answer) (contents : Contents) :
    Except DirectoryError (Plan α) → Prop
  | .error e => reg.Answers op (.error e)
  | .ok (.keep answer) =>
    reg.Answers op (.ok (f answer)) ∧ Registered (reg.record op (.ok (f answer))) contents
  | .ok (.write batch _ answer) =>
    reg.Answers op (.ok (f answer)) ∧ Contents.Within tableNames batch ∧
      Registered (reg.record op (.ok (f answer))) (contents.applyAll batch)

theorem Registered.carryOut (live : r.Live) (registered : Registered reg r.contents)
    {plan : Replicated → Except DirectoryError (Plan α)} {f : α → Answer}
    (explains : Explains reg op f r.contents (plan r)) :
    reg.Answers op (Operation.answer f (carryOut plan r)).1 ∧
      Registered (reg.record op (Operation.answer f (carryOut plan r)).1)
        (carryOut plan r).2.contents := by
  cases planned : plan r with
  | error e =>
      rw [planned] at explains
      rw [carryOut_of_error planned]
      exact ⟨explains, (contents_noteRead r).symm ▸ registered⟩
  | ok decided =>
      rw [planned] at explains
      cases decided with
      | keep answer =>
          rw [carryOut_of_keep planned]
          exact ⟨explains.1, (contents_noteRead r).symm ▸ explains.2⟩
      | write batch context answer =>
          obtain ⟨answered, named, stored⟩ := explains
          obtain ⟨r', hrun, -, hcontents⟩ := live.carryOut_of_write planned named
          rw [hrun, hcontents]
          exact ⟨answered, stored⟩

theorem Registered.storeAddresses (live : r.Live) (registered : Registered reg r.contents)
    (addresses : List String) (jid : String) (op : Operation)
    (answers : reg.Answers op (reg.bindingResult jid))
    (records : reg.record op (.ok .done) =
      { reg with owners := boundAll reg.owners addresses jid }) :
    Explains reg op (fun _ => .done) r.contents (planStoreAddresses addresses jid r) := by
  obtain ⟨keyspace, ready⟩ := live.ready
  rw [planStoreAddresses_eq ready live.reads registered]
  rw [Registry.bindingResult] at answers
  cases known : reg.applications[jid]? with
  | none =>
      rw [known] at answers
      exact answers
  | some app =>
      rw [known] at answers
      refine ⟨answers, (within_rebindAll r.contents jid _).mono (by decide), ?_⟩
      rw [records]
      exact ApplicationsStored.bindAll registered (by simp [known]) addresses

/-- A command that does not register anything writes to other tables. -/
theorem Registered.run_of_not_registers (live : r.Live) (consistent : Consistent r.contents)
    (registered : Registered reg r.contents) (other : ¬ op.Registers) :
    Registered (reg.record op (op.run r).1) (op.run r).2.contents := by
  obtain ⟨keyspace, ready⟩ := live.ready
  obtain ⟨-, -, hcontents⟩ := follows_run ready op fun batch planned =>
    (consistent.within ready planned).mono (tablesOf_subset op)
  rw [Registry.record_of_not_registers other]
  rcases hcontents with unchanged | ⟨batch, planned, written⟩
  · rw [unchanged]
    exact registered
  have within := consistent.within ready planned
  rw [written]
  cases op with
  | storeNode | updateNode | removeNode =>
      have disjoint : ∀ table ∈ applicationTables, table ∉ nodeTables := by decide
      exact ApplicationsStored.of_contents_eq registered (within.keeps disjoint)
  | storeCall | removeCall =>
      have disjoint : ∀ table ∈ applicationTables, table ∉ callTables := by decide
      exact ApplicationsStored.of_contents_eq registered (within.keeps disjoint)
  | storeClient | removeClient =>
      have disjoint : ∀ table ∈ applicationTables, table ∉ clientTables := by decide
      exact ApplicationsStored.of_contents_eq registered (within.keeps disjoint)
  | storeApplication | removeApplication | storeAddress | storeAddresses | removeAddress =>
      exact absurd trivial other
  | _ => exact planned.elim

/-- What the directory answers is what the registry makes of the operation, and its tables are
those of the registry after it. -/
theorem Registered.run (live : r.Live) (consistent : Consistent r.contents)
    (registered : Registered reg r.contents) (op : Operation) :
    reg.Answers op (op.run r).1 ∧
      Registered (reg.record op (op.run r).1) (op.run r).2.contents := by
  obtain ⟨keyspace, ready⟩ := live.ready
  cases op with
  | storeApplication app =>
      refine registered.carryOut live ?_
      rw [planStoreApplication_eq ready live.reads registered]
      cases known : reg.applications[app.bareJid]? with
      | some previous => simp [Explains, Registry.Answers, known]
      | none =>
          refine ⟨by simp [Registry.Answers, known], ?_, ApplicationsStored.create registered known⟩
          exact (within_insertApplication app).mono (by decide)
  | getApplication jid =>
      refine ⟨?_, registered.run_of_not_registers live consistent id⟩
      exact congrArg (Except.ok ∘ Answer.application)
        (application?_eq ready live.reads registered jid)
  | removeApplication jid =>
      refine registered.carryOut live ?_
      rw [planRemoveApplication_eq ready live.reads registered]
      cases known : reg.applications[jid]? with
      | none => simp [Explains, Registry.Answers, known]
      | some app =>
          have named : Contents.Within tableNames (dropApplication jid (r.addressesOf jid)) :=
            (within_dropApplication jid _).mono applicationTables_subset
          have listed := mem_addressesOf ready live.reads registered jid
          exact ⟨by simp [Registry.Answers, known], named, ApplicationsStored.remove registered
            listed (boundTo_unboundFrom reg.owners jid)⟩
  | storeAddress address jid =>
      exact registered.carryOut live (registered.storeAddresses live [address] jid _ rfl rfl)
  | storeAddresses addresses jid =>
      exact registered.carryOut live (registered.storeAddresses live addresses jid _ rfl rfl)
  | removeAddress address =>
      refine registered.carryOut live ?_
      rw [planRemoveAddress_eq ready live.reads registered]
      cases bound : reg.owners[address]? with
      | none =>
          -- Nothing is written, and the registry has nothing to forget.
          refine ⟨rfl, ?_⟩
          simp only [Registered, Registry.record, Maps.erase_of_none bound]
          exact registered
      | some jid =>
          exact ⟨rfl, (within_unbindAddress address).mono applicationTables_subset,
            ApplicationsStored.unbind registered address⟩
  | applicationForAddress address =>
      refine ⟨?_, registered.run_of_not_registers live consistent id⟩
      exact congrArg (Except.ok ∘ Answer.application)
        (applicationForAddress?_eq ready live.reads registered address)
  | addressesForApplication jid =>
      refine ⟨⟨r.addressesOf jid, rfl, ?_, ?_⟩, registered.run_of_not_registers live consistent id⟩
      · have sorted := ready.rowKeys_sorted (show Layout.addresses ∈ tableNames by decide)
          live.reads (.names [jid])
        exact sorted.imp fun hlt => ne_of_lt hlt
      · exact mem_addressesOf ready live.reads registered jid
  | _ => exact ⟨trivial, registered.run_of_not_registers live consistent id⟩

end Switchboard.Replicated
