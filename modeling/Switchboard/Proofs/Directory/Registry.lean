import Switchboard.Directory.Operation
import Switchboard.Proofs.Directory.Records

/-! # A registry of address bindings

A registry of applications and of the addresses bound to them is kept by the answers of a
directory alone: a command that is refused changes nothing in it, and one that is answered
changes it in the plain way. It says what the next operation should be answered.
-/

namespace Switchboard

open Switchboard.Records

/-- The applications, and which of them each bound address belongs to. -/
structure Registry where
  applications : ApplicationMap := ∅
  owners : OwnerMap := ∅

namespace Operation

def Registers : Operation → Prop
  | storeApplication _ | removeApplication _ => True
  | storeAddress _ _ | storeAddresses _ _ | removeAddress _ => True
  | _ => False

def Names (jid : String) : Operation → Prop
  | storeApplication app => app.bareJid = jid
  | removeApplication app | storeAddress _ app | storeAddresses _ app => app = jid
  | _ => False

def addresses : Operation → List String
  | storeAddress address _ | removeAddress address => [address]
  | storeAddresses addresses _ => addresses
  | _ => []

end Operation

namespace Registry

/-- The registry after an operation that was answered so. -/
def record (reg : Registry) (op : Operation) : Except DirectoryError Answer → Registry
  | .error _ => reg
  | .ok _ =>
    match op with
    | .storeApplication app =>
      { reg with applications := reg.applications.insert app.bareJid app }
    | .removeApplication jid => ⟨reg.applications.erase jid, unboundFrom reg.owners jid⟩
    | .storeAddress address jid => { reg with owners := boundAll reg.owners [address] jid }
    | .storeAddresses addresses jid => { reg with owners := boundAll reg.owners addresses jid }
    | .removeAddress address => { reg with owners := reg.owners.erase address }
    | _ => reg

/-- Addresses are bound to an application exactly when there is one. -/
def bindingResult (reg : Registry) (jid : String) : Except DirectoryError Answer :=
  if (reg.applications[jid]?).isSome then .ok .done else .error (.notFound .application jid)

/-- What the registry makes of an operation on applications and addresses. Only the order in which
the addresses of an application are listed is left open. -/
def Answers (reg : Registry) : Operation → Except DirectoryError Answer → Prop
  | .storeApplication app, result =>
    result = if (reg.applications[app.bareJid]?).isSome then
        .error (.alreadyExists .application app.bareJid)
      else .ok (.application (some app))
  | .getApplication jid, result => result = .ok (.application reg.applications[jid]?)
  | .removeApplication jid, result =>
    result = match reg.applications[jid]? with
      | none => .error (.notFound .application jid)
      | some app => .ok (.application (some app))
  | .storeAddress _ jid, result | .storeAddresses _ jid, result => result = reg.bindingResult jid
  | .removeAddress _, result => result = .ok .done
  | .applicationForAddress address, result =>
    result = .ok (.application (reg.owners[address]?.bind (reg.applications[·]?)))
  | .addressesForApplication jid, result =>
    ∃ addresses, result = .ok (.texts addresses) ∧ addresses.Nodup ∧
      ∀ address, address ∈ addresses ↔ BoundTo reg.owners jid address
  | _, _ => True

def Sound (reg : Registry) : Prop :=
  ∀ address jid, BoundTo reg.owners jid address → (reg.applications[jid]?).isSome

theorem sound_empty : Sound {} := by
  intro address jid bound
  simp [BoundTo] at bound

variable {reg : Registry} {op : Operation} {result : Except DirectoryError Answer}

theorem record_of_not_registers (other : ¬ op.Registers) : reg.record op result = reg := by
  cases result with
  | error e => rfl
  | ok answer =>
      cases op with
      | storeApplication | removeApplication | storeAddress | storeAddresses | removeAddress =>
          exact absurd trivial other
      | _ => rfl

theorem Sound.bindAll (sound : reg.Sound) {jid : String}
    (known : (reg.applications[jid]?).isSome) (addresses : List String) :
    Sound { reg with owners := boundAll reg.owners addresses jid } := by
  intro address app bound
  rw [boundTo_boundAll] at bound
  split at bound
  · rw [bound]
    exact known
  · exact sound address app bound

theorem isSome_of_bindingResult {jid : String} {answer : Answer}
    (bound : .ok answer = reg.bindingResult jid) : (reg.applications[jid]?).isSome := by
  rw [bindingResult] at bound
  split at bound
  · assumption
  · cases bound

/-- A directory that answers as the registry does binds no address to an absent application. -/
theorem Sound.record (sound : reg.Sound) (answers : reg.Answers op result) :
    (reg.record op result).Sound := by
  cases result with
  | error e => exact sound
  | ok answer =>
      cases op with
      | storeApplication app =>
          intro address jid bound
          have known := sound address jid bound
          simp only [Registry.record, Maps.getElem?_insert]
          split
          · rfl
          · exact known
      | removeApplication gone =>
          intro address jid bound
          obtain ⟨other, bound⟩ := (boundTo_unboundFrom reg.owners gone jid address).1 bound
          simp only [Registry.record, Maps.getElem?_erase, if_neg (Ne.symm other)]
          exact sound address jid bound
      | storeAddress address jid => exact sound.bindAll (isSome_of_bindingResult answers) [address]
      | storeAddresses addresses jid =>
          exact sound.bindAll (isSome_of_bindingResult answers) addresses
      | removeAddress gone =>
          intro address jid bound
          simp only [Registry.record, BoundTo, Maps.getElem?_erase] at bound
          split at bound
          · cases bound
          · exact sound address jid bound
      | _ => exact sound

/-- An application that is neither named nor loses an address has the addresses that it had. -/
theorem boundTo_record_iff (reg : Registry) {jid : String} (unnamed : ¬ op.Names jid)
    (untaken : ∀ address ∈ op.addresses, ¬ BoundTo reg.owners jid address)
    (result : Except DirectoryError Answer) (address : String) :
    BoundTo (reg.record op result).owners jid address ↔ BoundTo reg.owners jid address := by
  have bind {addresses : List String} {app : String} (other : app ≠ jid)
      (untaken : ∀ address ∈ addresses, ¬ BoundTo reg.owners jid address) :
      BoundTo (boundAll reg.owners addresses app) jid address ↔ BoundTo reg.owners jid address := by
    rw [boundTo_boundAll]
    split
    · next hin =>
        constructor
        · exact fun he => absurd he.symm other
        · exact fun bound => absurd bound (untaken address hin)
    · rfl
  cases result with
  | error e => rfl
  | ok answer =>
      cases op with
      | removeApplication app =>
          rw [Registry.record, boundTo_unboundFrom]
          simp [show jid ≠ app from fun he => unnamed he.symm]
      | storeAddress first app => exact bind unnamed untaken
      | storeAddresses addresses app => exact bind unnamed untaken
      | removeAddress gone =>
          have free : ¬ BoundTo reg.owners jid gone := untaken gone List.mem_cons_self
          rw [Registry.record, BoundTo, Maps.getElem?_erase]
          split
          · next he =>
              subst he
              simpa using free
          · rfl
      | _ => rfl

end Registry

end Switchboard
