import Switchboard.Directory.Memory.Basic
import Switchboard.Proofs.Directory.Memory.Applications
import Switchboard.Proofs.Directory.Registry

/-! # Address bindings in memory

A directory in memory answers as its registry does, and an application that an operation
leaves alone keeps the very list of its addresses.
-/

namespace Switchboard.Memory

open Switchboard.Records

/-- The directory holds the registry, and its index of addresses is exact. -/
structure Keeps (m : Memory) (reg : Registry) : Prop where
  applications : m.applications.applications = reg.applications
  owners : m.applications.owners = reg.owners
  filed : m.applications.Filed

structure SameBindings (m m' : Memory) : Prop where
  applications : m'.applications.applications = m.applications.applications
  owners : m'.applications.owners = m.applications.owners
  addresses : m'.applications.addresses = m.applications.addresses

variable {m m' : Memory} {reg : Registry} {op : Operation}

theorem keeps_empty : Keeps {} {} := ⟨rfl, rfl, Applications.exact_empty.addresses⟩

theorem sameBindings_run (m : Memory) (other : ¬ op.Registers) : m.SameBindings (op.run m).2 := by
  cases op with
  | storeApplication | removeApplication | storeAddress | storeAddresses | removeAddress =>
      exact absurd trivial other
  | storeCall call =>
      simp only [Operation.run, Operation.answer, Directory.storeCall]
      split
      · exact ⟨rfl, rfl, rfl⟩
      · exact ⟨rfl, rfl, rfl⟩
  | removeClient jid =>
      simp only [Operation.run, Operation.answer, Directory.removeClient, onApplications,
        Applications.removeClient]
      split
      · exact ⟨rfl, rfl, rfl⟩
      · exact ⟨rfl, rfl, rfl⟩
  | _ => exact ⟨rfl, rfl, rfl⟩

theorem Keeps.of_sameBindings (keeps : m.Keeps reg) (same : m.SameBindings m') : m'.Keeps reg where
  applications := same.applications.trans keeps.applications
  owners := same.owners.trans keeps.owners
  filed := by
    rw [Applications.Filed, same.owners, same.addresses]
    exact keeps.filed

theorem Keeps.run_of_not_registers (keeps : m.Keeps reg) (other : ¬ op.Registers) :
    (op.run m).2.Keeps (reg.record op (op.run m).1) := by
  rw [Registry.record_of_not_registers other]
  exact keeps.of_sameBindings (sameBindings_run m other)

/-! ### Commands -/

theorem storeApplication_eq (m : Memory) (app : Application) :
    Directory.storeApplication app m =
      if (m.applications.applications[app.bareJid]?).isSome then
        (.error (.alreadyExists .application app.bareJid), m)
      else (.ok app, { m with applications := { m.applications with
        applications := m.applications.applications.insert app.bareJid app } }) := by
  rw [← Std.ExtTreeMap.contains_eq_isSome_getElem?]
  simp only [Directory.storeApplication, onApplications, Applications.store]
  split <;> rfl

theorem removeApplication_eq (m : Memory) (jid : String) :
    Directory.removeApplication jid m =
      match m.applications.applications[jid]? with
      | none => (.error (.notFound .application jid), m)
      | some app => (.ok app, { m with applications := m.applications.drop jid }) := by
  simp only [Directory.removeApplication, onApplications, Applications.remove]
  cases m.applications.applications[jid]? <;> rfl

theorem storeAddresses_eq (m : Memory) (addresses : List String) (jid : String) :
    Directory.storeAddresses addresses jid m =
      if (m.applications.applications[jid]?).isSome then
        (.ok (),
          { m with applications := (addresses.foldl (Applications.bind jid) m.applications) })
      else (.error (.notFound .application jid), m) := by
  rw [← Std.ExtTreeMap.contains_eq_isSome_getElem?]
  simp only [Directory.storeAddresses, onApplications, Applications.storeAddresses]
  split <;> rfl

theorem Keeps.bindAll (keeps : m.Keeps reg) (addresses : List String) (jid : String) :
    Keeps { m with applications := (addresses.foldl (Applications.bind jid) m.applications) }
      { reg with owners := boundAll reg.owners addresses jid } where
  applications :=
    (Applications.sameRecords_bindAll _ addresses jid).applications.trans keeps.applications
  owners := by rw [Applications.owners_bindAll, keeps.owners]
  filed := Applications.filed_bindAll keeps.filed addresses jid

theorem Keeps.storeAddresses (keeps : m.Keeps reg) (addresses : List String) (jid : String) :
    ((Operation.storeAddresses addresses jid).run m).1 = reg.bindingResult jid ∧
      ((Operation.storeAddresses addresses jid).run m).2.Keeps
        (reg.record (.storeAddresses addresses jid) (reg.bindingResult jid)) := by
  rw [Operation.run, Operation.answer, storeAddresses_eq, keeps.applications,
    Registry.bindingResult]
  split
  · exact ⟨rfl, keeps.bindAll addresses jid⟩
  · exact ⟨rfl, keeps⟩

/-- What the directory answers is what the registry makes of the operation, and it holds the
registry after it. -/
theorem Keeps.run (keeps : m.Keeps reg) (op : Operation) :
    reg.Answers op (op.run m).1 ∧ (op.run m).2.Keeps (reg.record op (op.run m).1) := by
  cases op with
  | storeApplication app =>
      rw [Operation.run, Operation.answer, storeApplication_eq, Registry.Answers,
        keeps.applications]
      split
      · exact ⟨rfl, keeps⟩
      · exact ⟨rfl, rfl, keeps.owners, keeps.filed⟩
  | getApplication jid =>
      refine ⟨?_, keeps⟩
      rw [Registry.Answers, ← keeps.applications]
      rfl
  | removeApplication jid =>
      rw [Operation.run, Operation.answer, removeApplication_eq, Registry.Answers,
        keeps.applications]
      cases reg.applications[jid]? with
      | none => exact ⟨rfl, keeps⟩
      | some app =>
          refine ⟨rfl, ?_, ?_, Applications.filed_drop keeps.filed jid⟩
          · simp only [Applications.drop, keeps.applications]
            rfl
          · simp only [Applications.owners_drop keeps.filed, keeps.owners]
            rfl
  | storeAddress address jid =>
      obtain ⟨answered, kept⟩ := keeps.storeAddresses [address] jid
      have result : ((Operation.storeAddress address jid).run m).1 = reg.bindingResult jid :=
        answered
      rw [result]
      exact ⟨rfl, kept⟩
  | storeAddresses addresses jid =>
      obtain ⟨answered, kept⟩ := keeps.storeAddresses addresses jid
      rw [answered]
      exact ⟨rfl, kept⟩
  | removeAddress address =>
      refine ⟨rfl, ?_, ?_, Applications.filed_unbind keeps.filed address⟩
      · exact (Applications.sameRecords_unbind _ address).applications.trans keeps.applications
      · refine (Applications.owners_unbind _ address).trans ?_
        rw [keeps.owners]
        rfl
  | applicationForAddress address =>
      refine ⟨?_, keeps⟩
      rw [Registry.Answers, ← keeps.applications, ← keeps.owners]
      rfl
  | addressesForApplication jid =>
      refine ⟨⟨m.applications.addresses.values jid, rfl, keeps.filed.nodup jid, ?_⟩, keeps⟩
      rw [← keeps.owners]
      exact keeps.filed.mem_iff jid
  | _ => exact ⟨trivial, keeps.run_of_not_registers fun registers => registers⟩

/-- The list of an application that the operation leaves alone stays as it is. -/
theorem addressesForApplication_run (m : Memory) {jid : String} (unnamed : ¬ op.Names jid)
    (untaken : ∀ address ∈ op.addresses, ¬ BoundTo m.applications.owners jid address) :
    Directory.addressesForApplication jid (op.run m).2 =
      Directory.addressesForApplication jid m := by
  have bound (addresses : List String) (app : String) (other : app ≠ jid)
      (untaken : ∀ address ∈ addresses, ¬ BoundTo m.applications.owners jid address) :
      Directory.addressesForApplication jid (Directory.storeAddresses addresses app m).2 =
        Directory.addressesForApplication jid m := by
    rw [storeAddresses_eq]
    split
    · exact Applications.values_bindAll other untaken
    · rfl
  by_cases registers : op.Registers
  · cases op with
    | storeApplication app =>
        rw [Operation.run, Operation.answer, storeApplication_eq]
        split <;> rfl
    | removeApplication app =>
        rw [Operation.run, Operation.answer, removeApplication_eq]
        cases m.applications.applications[app]? with
        | none => rfl
        | some gone =>
            have other : app ≠ jid := unnamed
            change Listing.values (m.applications.addresses.erase app) jid =
              Listing.values m.applications.addresses jid
            rw [Listing.values, Maps.getElem?_erase, if_neg other, Listing.values]
    | storeAddress address app => exact bound [address] app unnamed untaken
    | storeAddresses addresses app => exact bound addresses app unnamed untaken
    | removeAddress address => exact Applications.values_unbind (untaken address List.mem_cons_self)
    | _ => exact registers.elim
  · exact congrArg (Listing.values · jid) (sameBindings_run m registers).addresses

end Switchboard.Memory
