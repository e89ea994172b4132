import Switchboard.Columns.Runtime
import Switchboard.Proofs.Directory.Memory.Bindings
import Switchboard.Proofs.Directory.Replicated.Bindings
import Switchboard.Proofs.Directory.Unfailing

/-! # Address bindings

The bindings of a directory of either kind are those of the registry that its answers
describe, after every history, so an address leads to one application that is there.
-/

namespace Switchboard

open Switchboard.Columns Switchboard.Records

namespace Backend

/-- The directory holds the registry, and nothing makes it fail. -/
def Keeps (reg : Registry) : Backend → Prop
  | memory m => m.Keeps reg
  | replicated r => (replicated r).InOrder ∧ Replicated.Registered reg r.contents

variable {b : Backend} {reg : Registry}

theorem Fresh.keeps (fresh : b.Fresh) (unfailing : b.Unfailing) : b.Keeps {} := by
  have inOrder := fresh.inOrder unfailing
  cases fresh with
  | memory => exact Memory.keeps_empty
  | replicated empty opened =>
      obtain ⟨-, blank, -⟩ := Replicated.ready_of_openOn empty opened
      exact ⟨inOrder, Replicated.applicationsStored_empty fun table _ => blank table⟩

theorem Keeps.run (keeps : b.Keeps reg) (op : Operation) :
    reg.Answers op (op.run b).1 ∧ (op.run b).2.Keeps (reg.record op (op.run b).1) := by
  cases b with
  | memory m =>
      rw [run_memory]
      exact Memory.Keeps.run keeps op
  | replicated r =>
      obtain ⟨⟨live, consistent⟩, registered⟩ := keeps
      obtain ⟨answered, registered'⟩ := registered.run live consistent op
      rw [run_replicated]
      exact ⟨answered, live.run consistent op, registered'⟩

theorem Keeps.advance (keeps : b.Keeps reg) (span : Duration) :
    (b.after (.advance span)).Keeps reg := by
  cases b with
  | memory m => exact keeps
  | replicated r =>
      have quiet : Replicated.Event.Quiet (.advance span) := trivial
      exact ⟨InOrder.after keeps.1 quiet, keeps.2⟩

/-- The addresses of an application that an operation leaves alone are listed as before. -/
theorem Keeps.addressesForApplication_run (keeps : b.Keeps reg) {op : Operation} {jid : String}
    (unnamed : ¬ op.Names jid)
    (untaken : ∀ address ∈ op.addresses, address ∉ Directory.addressesForApplication jid b) :
    Directory.addressesForApplication jid (op.run b).2 =
      Directory.addressesForApplication jid b := by
  cases b with
  | memory m =>
      rw [run_memory]
      refine Memory.addressesForApplication_run m unnamed fun address named bound => ?_
      exact untaken address named ((Memory.Keeps.filed keeps).mem_iff jid address |>.2 bound)
  | replicated r =>
      obtain ⟨⟨live, consistent⟩, registered⟩ := keeps
      obtain ⟨-, registered'⟩ := registered.run live consistent op
      obtain ⟨live', -⟩ := live.run consistent op
      obtain ⟨keyspace, ready⟩ := live.ready
      obtain ⟨keyspace', ready'⟩ := live'.ready
      have listed := Replicated.mem_addressesOf ready live.reads registered jid
      have listed' := Replicated.mem_addressesOf ready' live'.reads registered' jid
      have known : Replicated.Layout.addresses ∈ Replicated.tableNames := by decide
      rw [run_replicated]
      refine (ready'.rowKeys_sorted known live'.reads _).eq_of_mem_iff
        (ready.rowKeys_sorted known live.reads _) fun address => ?_
      refine (listed' address).trans ((reg.boundTo_record_iff unnamed ?_ _ address).trans
        (listed address).symm)
      intro other named bound
      exact untaken other named ((listed other).2 bound)

/-- The directory and the registry after a history. Before each operation some time passes. -/
def recorded (b : Backend) (reg : Registry) : List (Duration × Operation) → Backend × Registry
  | [] => (b, reg)
  | (span, op) :: rest =>
    let (result, b) := op.run (b.after (.advance span))
    b.recorded (reg.record op result) rest

structure Binds (b : Backend) (reg : Registry) : Prop where
  answers : ∀ op : Operation, reg.Answers op (op.run b).1
  /-- A bound address has an application, and it is shown. -/
  found : ∀ address jid, BoundTo reg.owners jid address →
    ∃ app, reg.applications[jid]? = some app ∧
      Directory.applicationForAddress? address b = some app
  /-- What an operation neither names nor takes an address from keeps its bindings. -/
  kept : ∀ (op : Operation) (jid : String), ¬ op.Names jid →
    (∀ address ∈ op.addresses, address ∉ Directory.addressesForApplication jid b) →
      Directory.addressesForApplication jid (op.run b).2 =
        Directory.addressesForApplication jid b

theorem Keeps.binds (keeps : b.Keeps reg) (sound : reg.Sound) : b.Binds reg where
  answers := fun op => (keeps.run op).1
  found := by
    intro address jid bound
    obtain ⟨app, known⟩ := Option.isSome_iff_exists.1 (sound address jid bound)
    have looked := (keeps.run (.applicationForAddress address)).1
    have shown : Directory.applicationForAddress? address b =
        reg.owners[address]?.bind (reg.applications[·]?) :=
      Answer.application.inj (Except.ok.inj looked)
    rw [BoundTo] at bound
    rw [bound, Option.bind_some, known] at shown
    exact ⟨app, known, shown⟩
  kept := fun _ _ unnamed untaken => keeps.addressesForApplication_run unnamed untaken

theorem Keeps.recorded (keeps : b.Keeps reg) (sound : reg.Sound)
    (steps : List (Duration × Operation)) :
    let (b', reg') := b.recorded reg steps
    b'.Keeps reg' ∧ reg'.Sound := by
  induction steps generalizing b reg with
  | nil => exact ⟨keeps, sound⟩
  | cons step rest ih =>
      obtain ⟨span, op⟩ := step
      obtain ⟨answered, kept⟩ := (keeps.advance span).run op
      exact ih kept (sound.record answered)

/-- After every history of a directory that starts without records, its addresses are those of the
registry that its answers describe. -/
theorem bindings_follow_registry (fresh : b.Fresh) (unfailing : b.Unfailing)
    (steps : List (Duration × Operation)) :
    let (b', reg) := b.recorded {} steps
    b'.Binds reg := by
  obtain ⟨keeps, sound⟩ := (fresh.keeps unfailing).recorded Registry.sound_empty steps
  exact keeps.binds sound

/-- An address that is listed twice goes over to another application, and the application that had
it is removed with the one that it is left. -/
theorem bindings_follow_registry_of_rebound_address :
    let steps : List (Duration × Operation) := [
      (0, .storeApplication (.ofJid "a@example" "pstn")),
      (10, .storeApplication (.ofJid "b@example" "pstn")),
      (0, .storeAddresses ["1", "2", "1"] "a@example"), (500, .storeAddress "2" "b@example"),
      (0, .storeAddress "3" "c@example"), (0, .removeApplication "a@example")]
    let (b, reg) := (memory {}).recorded {} steps
    reg.owners.toList = [("2", "b@example")] ∧ b.Binds reg ∧
      ∃ r cluster, Replicated.openOn {} {} = (.ok r, cluster) ∧
        let (b', reg') := (replicated r).recorded {} steps
        b'.Binds reg' := by
  intro steps
  have empty : ({} : Cluster).keyspaces = ∅ := rfl
  have reached : Cluster.connect ({} : StoreSettings).host ({} : StoreSettings).port = .ok () := rfl
  obtain ⟨r, -, opened, -, -, switches⟩ := Replicated.openOn_of_connect empty reached
  refine ⟨by decide +kernel, bindings_follow_registry .memory trivial steps, r, _, opened, ?_⟩
  exact bindings_follow_registry (.replicated empty opened)
    ⟨switches.failReads, switches.failWrites⟩ steps

end Backend

end Switchboard
