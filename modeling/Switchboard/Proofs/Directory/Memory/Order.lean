import Mathlib.Data.List.Induction
import Switchboard.Proofs.Directory.Memory.Clients
import Switchboard.Proofs.Directory.Memory.Lookups
import Switchboard.Proofs.Directory.Memory.Removals
import Switchboard.Proofs.Directory.Refusal

/-! # The order of the lists in memory

A list of an index changes in two ways: a value is taken out of it, or put at its end. So the
nodes of a platform stand in the order in which they began to serve it without a break since, and
the calls of a client or of a node in the order in which they were stored last.
-/

namespace Switchboard.Memory

open Switchboard.Maps Switchboard.Records

/-! ## Values in the order of their steps -/

/-- Every value has a step of its own, and the values stand in the order of these steps. -/
structure InOrderOf (since : String → Nat → Prop) (listed : List String) : Prop where
  dated : ∀ value ∈ listed, ∃ step, since value step
  ordered : listed.Pairwise fun first second =>
    ∀ step step', since first step → since second step' → step < step'

/-- Some of the values of a list, and perhaps behind them one that moved. -/
inductive Rearranged (moved : String → Prop) (listed : List String) : List String → Prop
  | part {kept : List String} : kept.Sublist listed → (∀ value ∈ kept, ¬ moved value) →
    Rearranged moved listed kept
  | put {kept : List String} {value : String} : kept.Sublist listed →
    (∀ other ∈ kept, ¬ moved other) → moved value → Rearranged moved listed (kept ++ [value])

section Order

variable {since since' : String → Nat → Prop} {listed listed' : List String} {value : String}
  {now : Nat}

theorem inOrderOf_nil (since : String → Nat → Prop) : InOrderOf since [] where
  dated := nofun
  ordered := .nil

/-- Values that keep their steps stay in order when others are taken out. -/
theorem InOrderOf.sublist (h : InOrderOf since listed) (part : listed'.Sublist listed)
    (same : ∀ value ∈ listed', ∀ step, since' value step ↔ since value step) :
    InOrderOf since' listed' where
  dated := by
    intro value hin
    obtain ⟨step, began⟩ := h.dated value (part.subset hin)
    exact ⟨step, (same value hin step).2 began⟩
  ordered := by
    refine (h.ordered.sublist part).imp_of_mem ?_
    intro first second hfirst hsecond hlt step step' began began'
    exact hlt step step' ((same first hfirst step).1 began) ((same second hsecond step').1 began')

/-- The value of the latest step goes to the end. -/
theorem InOrderOf.concat (h : InOrderOf since listed)
    (past : ∀ earlier ∈ listed, ∀ step, since earlier step → step < now)
    (latest : ∀ step, since value step ↔ step = now) : InOrderOf since (listed ++ [value]) where
  dated := by
    intro other hin
    rcases List.mem_append.1 hin with hin | hin
    · exact h.dated other hin
    · rw [List.mem_singleton.1 hin]
      exact ⟨now, (latest now).2 rfl⟩
  ordered := by
    refine List.pairwise_append.2 ⟨h.ordered, List.pairwise_singleton _ _, ?_⟩
    intro first hfirst second hsecond step step' began began'
    rw [List.mem_singleton.1 hsecond, latest] at began'
    rw [began']
    exact past first hfirst step began

/-- One more step leaves a list in order that keeps values at their steps, and puts the value that
moved behind them. -/
theorem InOrderOf.rearranged {moved : String → Prop} (h : InOrderOf since listed)
    (change : Rearranged moved listed listed') (past : ∀ value step, since value step → step < now)
    (stays : ∀ value ∈ listed', ¬ moved value → ∀ step, since' value step ↔ since value step)
    (moves : ∀ value ∈ listed', moved value → ∀ step, since' value step ↔ step = now) :
    InOrderOf since' listed' := by
  cases change with
  | part sub unmoved => exact h.sublist sub fun value hin => stays value hin (unmoved value hin)
  | put sub unmoved new =>
      have same : ∀ value ∈ _, ∀ step, since' value step ↔ since value step :=
        fun value hin => stays value (List.mem_append_left _ hin) (unmoved value hin)
      have latest := moves _ List.mem_concat_self new
      refine (h.sublist sub same).concat (fun value hin step began => ?_) latest
      exact past value step ((same value hin step).1 began)

end Order

/-! ## Histories and their steps -/

def after (ops : List Operation) : Memory :=
  (Operation.runAll ({} : Memory) ops).2

/-- The step is the one that made the node serve the platform, as it does to this day. -/
structure ServesSince (ops : List Operation) (platform hostname : String) (step : Nat) : Prop where
  within : step < ops.length
  before : ¬ Serves (after (ops.take step)).nodes.byHostname platform hostname
  since : ∀ n, step < n → n ≤ ops.length →
    Serves (after (ops.take n)).nodes.byHostname platform hostname

def StoresCall (m : Memory) (id : String) (op : Operation) : Prop :=
  ∃ call answer, op = .storeCall call ∧ call.id = id ∧ (op.run m).1 = .ok answer

def StoredAt (ops : List Operation) (id : String) (step : Nat) : Prop :=
  ∃ op, ops[step]? = some op ∧ StoresCall (after (ops.take step)) id op

/-- The step is the last that stored the call. -/
structure StoredLast (ops : List Operation) (id : String) (step : Nat) : Prop where
  stored : StoredAt ops id step
  last : ∀ later, StoredAt ops id later → later ≤ step

section Histories

variable {ops : List Operation} {op : Operation} {platform hostname id : String} {step : Nat}

theorem after_concat (ops : List Operation) (op : Operation) :
    after (ops ++ [op]) = (op.run (after ops)).2 :=
  runAll_concat ops op

theorem indexed_after (ops : List Operation) : (after ops).Indexed :=
  indexed_empty.runAll ops

theorem take_concat (op : Operation) {n : Nat} (within : n ≤ ops.length) :
    (ops ++ [op]).take n = ops.take n :=
  List.take_append_of_le_length within

theorem take_concat_all (ops : List Operation) (op : Operation) :
    (ops ++ [op]).take (ops.length + 1) = ops ++ [op] :=
  List.take_of_length_le (by simp)

theorem length_concat (ops : List Operation) (op : Operation) :
    (ops ++ [op]).length = ops.length + 1 := by simp

/-! ### Service -/

theorem ServesSince.unique {step' : Nat} (h : ServesSince ops platform hostname step)
    (h' : ServesSince ops platform hostname step') : step = step' := by
  rcases lt_trichotomy step step' with hlt | rfl | hlt
  · exact absurd (h.since step' hlt h'.within.le) h'.before
  · rfl
  · exact absurd (h'.since step hlt h.within.le) h.before

theorem ServesSince.serves (h : ServesSince ops platform hostname step) :
    Serves (after ops).nodes.byHostname platform hostname := by
  have now := h.since ops.length h.within le_rfl
  rwa [List.take_length] at now

/-- A node that goes on serving a platform has served it since the same step. -/
theorem servesSince_concat_iff_of_serves
    (serves : Serves (after ops).nodes.byHostname platform hostname)
    (still : Serves (after (ops ++ [op])).nodes.byHostname platform hostname) :
    ServesSince (ops ++ [op]) platform hostname step ↔ ServesSince ops platform hostname step := by
  constructor
  · rintro ⟨within, before, since⟩
    rw [length_concat] at within since
    have earlier : step < ops.length := by
      refine lt_of_le_of_ne (Nat.le_of_lt_succ within) fun now => ?_
      rw [now, take_concat op le_rfl, List.take_length] at before
      exact before serves
    refine ⟨earlier, take_concat op earlier.le ▸ before, fun n hlt hle => ?_⟩
    have served := since n hlt (hle.trans (Nat.le_succ _))
    rwa [take_concat op hle] at served
  · rintro ⟨within, before, since⟩
    rw [← take_concat op within.le] at before
    refine ⟨by rw [length_concat]; omega, before, fun n hlt hle => ?_⟩
    rw [length_concat] at hle
    rcases Nat.le_or_eq_of_le_succ hle with hn | rfl
    · rw [take_concat op hn]
      exact since n hlt hn
    · rwa [take_concat_all]

/-- A node that begins to serve a platform has served it since this step. -/
theorem servesSince_concat_iff_of_begins
    (idle : ¬ Serves (after ops).nodes.byHostname platform hostname)
    (begins : Serves (after (ops ++ [op])).nodes.byHostname platform hostname) :
    ServesSince (ops ++ [op]) platform hostname step ↔ step = ops.length := by
  have now : ServesSince (ops ++ [op]) platform hostname ops.length := by
    refine ⟨by rw [length_concat]; omega, ?_, fun n hlt hle => ?_⟩
    · rwa [take_concat op le_rfl, List.take_length]
    · rw [length_concat] at hle
      rwa [Nat.le_antisymm hle hlt, take_concat_all]
  exact ⟨fun h => h.unique now, fun same => same ▸ now⟩

/-! ### Stored calls -/

theorem StoredAt.within (h : StoredAt ops id step) : step < ops.length := by
  obtain ⟨op, found, -⟩ := h
  exact (List.getElem?_eq_some_iff.1 found).1

theorem storedAt_concat_iff :
    StoredAt (ops ++ [op]) id step ↔
      StoredAt ops id step ∨ step = ops.length ∧ StoresCall (after ops) id op := by
  rcases lt_trichotomy step ops.length with hlt | rfl | hlt
  · simp only [StoredAt, List.getElem?_append_left hlt, take_concat op hlt.le, hlt.ne, false_and,
      or_false]
  · have none : ¬ StoredAt ops id ops.length := fun h => lt_irrefl _ h.within
    have now : StoredAt (ops ++ [op]) id ops.length ↔ StoresCall (after ops) id op := by
      simp only [StoredAt, List.getElem?_concat_length, take_concat op le_rfl, List.take_length,
        Option.some.injEq, exists_eq_left']
    rw [now, or_iff_right none, and_iff_right rfl]
  · have none : ¬ StoredAt ops id step := fun h => lt_asymm hlt h.within
    have none' : ¬ StoredAt (ops ++ [op]) id step := fun h => by
      have within := h.within
      rw [length_concat] at within
      omega
    simp only [none, none', hlt.ne', false_and, or_self]

/-- A call that is not stored keeps its last step. -/
theorem storedLast_concat_iff_of_kept (kept : ¬ StoresCall (after ops) id op) :
    StoredLast (ops ++ [op]) id step ↔ StoredLast ops id step := by
  have same (step : Nat) : StoredAt (ops ++ [op]) id step ↔ StoredAt ops id step := by
    simp only [storedAt_concat_iff, kept, and_false, or_false]
  constructor
  · rintro ⟨stored, last⟩
    exact ⟨(same step).1 stored, fun later h => last later ((same later).2 h)⟩
  · rintro ⟨stored, last⟩
    exact ⟨(same step).2 stored, fun later h => last later ((same later).1 h)⟩

/-- A call that is stored was stored last by this step. -/
theorem storedLast_concat_iff_of_stores (stores : StoresCall (after ops) id op) :
    StoredLast (ops ++ [op]) id step ↔ step = ops.length := by
  have now : StoredAt (ops ++ [op]) id ops.length := storedAt_concat_iff.2 (.inr ⟨rfl, stores⟩)
  have latest (later : Nat) (h : StoredAt (ops ++ [op]) id later) : later ≤ ops.length := by
    have within := h.within
    rw [length_concat] at within
    omega
  constructor
  · rintro ⟨stored, last⟩
    exact le_antisymm (latest step stored) (last ops.length now)
  · rintro rfl
    exact ⟨now, latest⟩

end Histories

/-! ## The nodes of a platform -/

/-- The hostnames of a platform after a node is written that serves it or does not. -/
def placed (platform : String) (node : Node) (listed : List String) : List String :=
  if platform ∈ node.platforms then Listing.pushUnique listed node.hostname
  else listed.filter (· ≠ node.hostname)

theorem rearranged_sublist {listed listed' : List String} (sub : listed'.Sublist listed) :
    Rearranged (· ∉ listed) listed listed' :=
  .part sub fun _ hin absent => absent (sub.subset hin)

theorem rearranged_placed (platform : String) (node : Node) (listed : List String) :
    Rearranged (· ∉ listed) listed (placed platform node listed) := by
  unfold placed Listing.pushUnique
  split
  · split
    · exact rearranged_sublist (List.Sublist.refl listed)
    · next absent => exact .put (List.Sublist.refl listed) (fun _ hin => not_not_intro hin) absent
  · exact rearranged_sublist List.filter_sublist

namespace Nodes

variable {nodes : Nodes} {node answer : Node} {platform : String}

theorem Exact.values_create (h : nodes.Exact) (fresh : nodes.byHostname[node.hostname]? = none)
    (platform : String) :
    (nodes.put node).byPlatform.values platform =
      placed platform node (nodes.byPlatform.values platform) := by
  have idle : ¬ Serves nodes.byHostname platform node.hostname := not_at_of_none fresh _
  simp only [Nodes.put, Listing.values_attachAll, placed, h.platforms.filter_of_not_filed idle,
    Std.ExtTreeSet.mem_toList]

theorem Exact.values_replace (h : nodes.Exact) {previous : Node}
    (known : nodes.byHostname[node.hostname]? = some previous) (platform : String) :
    ((nodes.release previous node).put node).byPlatform.values platform =
      placed platform node (nodes.byPlatform.values platform) := by
  simp only [Nodes.put, release, Listing.values_attachAll, Listing.values_detachAll, placed,
    List.mem_filter, Std.ExtTreeSet.mem_toList, Node.serves, Bool.not_eq_true',
    ← Bool.not_eq_true, Std.ExtTreeSet.contains_iff_mem]
  -- What is given up of a platform that the node goes on serving is nothing.
  by_cases serves : platform ∈ node.platforms
  · simp [serves]
  · by_cases served : platform ∈ previous.platforms
    · simp [serves, served]
    · have idle := mt (serves_of_some known platform).1 served
      simp only [serves, served, h.platforms.filter_of_not_filed idle, false_and, if_false]

theorem Exact.values_store (h : nodes.Exact) (accepted : (Nodes.store node nodes).1 = .ok answer)
    (platform : String) :
    (Nodes.store node nodes).2.byPlatform.values platform =
      placed platform node (nodes.byPlatform.values platform) := by
  obtain ⟨fresh, -, stored⟩ := h.of_store_ok accepted
  rw [stored]
  exact h.values_create fresh platform

theorem Exact.values_update (h : nodes.Exact) (accepted : (Nodes.update node nodes).1 = .ok answer)
    (platform : String) :
    (Nodes.update node nodes).2.byPlatform.values platform =
      placed platform node (nodes.byPlatform.values platform) := by
  obtain ⟨previous, known, -, updated⟩ := h.of_update_ok accepted
  rw [updated]
  exact h.values_replace known platform

end Nodes

section Served

variable {m : Memory}

theorem Indexed.rearranged_run (h : m.Indexed) (op : Operation) (platform : String) :
    Rearranged (· ∉ m.nodes.byPlatform.values platform) (m.nodes.byPlatform.values platform)
      ((op.run m).2.nodes.byPlatform.values platform) := by
  have unchanged : Rearranged (· ∉ m.nodes.byPlatform.values platform)
      (m.nodes.byPlatform.values platform) (m.nodes.byPlatform.values platform) :=
    rearranged_sublist (List.Sublist.refl _)
  cases result : (op.run m).1 with
  | error e =>
      rw [show (op.run m).2 = m from eq_of_refused op m _ e (Prod.ext result rfl)]
      exact unchanged
  | ok answer =>
      cases op with
      | storeNode node =>
          obtain ⟨stored, accepted, -⟩ := ok_of_map result
          have values := h.nodes.values_store accepted platform
          exact values.symm ▸ rearranged_placed _ _ _
      | updateNode node =>
          obtain ⟨stored, accepted, -⟩ := ok_of_map result
          have values := h.nodes.values_update accepted platform
          exact values.symm ▸ rearranged_placed _ _ _
      | removeNode hostname =>
          have values := (h.edited_removeNode hostname).platforms platform
          exact values.symm ▸ rearranged_sublist List.filter_sublist
      | storeCall call =>
          have same : ((Operation.storeCall call).run m).2.nodes = m.nodes := by
            simp only [Operation.run, Operation.answer, Directory.storeCall]
            split <;> rfl
          rw [same]
          exact unchanged
      | _ => exact unchanged

end Served

theorem inOrderOf_served (ops : List Operation) (platform : String) :
    InOrderOf (ServesSince ops platform) ((after ops).nodes.byPlatform.values platform) := by
  induction ops using List.reverseRecOn with
  | nil => exact inOrderOf_nil _
  | append_singleton init op ih =>
      have served := (indexed_after init).nodes.platforms.mem_iff platform
      have served' := (indexed_after (init ++ [op])).nodes.platforms.mem_iff platform
      have change := (indexed_after init).rearranged_run op platform
      rw [← after_concat] at change
      -- A node that was listed goes on serving, and one that was not begins with this step.
      refine ih.rearranged change (fun hostname step began => began.within) ?_ ?_
      · intro hostname hin stays step
        exact servesSince_concat_iff_of_serves ((served hostname).1 (not_not.1 stays))
          ((served' hostname).1 hin)
      · intro hostname hin begins step
        exact servesSince_concat_iff_of_begins (mt (served hostname).2 begins)
          ((served' hostname).1 hin)

/-! ## The calls of a client or of a node -/

/-- The ids under a key after a call is stored that belongs there or does not. -/
def restored (listed : List String) (id : String) (belongs : Bool) : List String :=
  listed.filter (· ≠ id) ++ if belongs then [id] else []

namespace Calls

variable {calls : Calls}

/-- A stored call is put where nothing is listed of its id. -/
theorem Exact.store_eq_put (h : calls.Exact) (call : Call) :
    ∃ rest : Calls, calls.store call = rest.put call ∧ ∀ key,
      rest.byClient.values key = (calls.byClient.values key).filter (· ≠ call.id) ∧
        rest.byNode.values key = (calls.byNode.values key).filter (· ≠ call.id) := by
  unfold Calls.store
  cases known : calls.byId[call.id]? with
  | none =>
      refine ⟨calls, rfl, fun key => ⟨?_, ?_⟩⟩
      · exact (h.byClient.filter_of_not_filed (not_at_of_none known _)).symm
      · exact (h.byNode.filter_of_not_filed (not_at_of_none known _)).symm
  | some previous =>
      have hkey := h.keyed call.id previous known
      refine ⟨calls.drop previous, rfl, fun key => ?_⟩
      rw [Calls.drop, hkey]
      refine ⟨h.byClient.values_detach_of_only ?_ key, h.byNode.values_detach_of_only ?_ key⟩
      · exact fun client filed => (at_of_some known _).1 filed
      · exact fun node filed => (at_of_some known _).1 filed

theorem Exact.values_store (h : calls.Exact) (call : Call) (key : String) :
    (calls.store call).byClient.values key =
        restored (calls.byClient.values key) call.id (call.client = key) ∧
      (calls.store call).byNode.values key =
        restored (calls.byNode.values key) call.id (call.node = key) := by
  obtain ⟨rest, put, vacated⟩ := h.store_eq_put call
  have absent (listed : List String) : call.id ∉ listed.filter (· ≠ call.id) := by simp
  rw [put, Calls.put, Listing.values_attach, Listing.values_attach, (vacated key).1,
    (vacated key).2, Listing.pushUnique, Listing.pushUnique, if_neg (absent _),
    if_neg (absent _), restored, restored]
  constructor
  · split <;> simp [*]
  · split <;> simp [*]

theorem Exact.sublist_remove (h : calls.Exact) (id key : String) :
    ((Calls.remove id calls).2.byClient.values key).Sublist (calls.byClient.values key) ∧
      ((Calls.remove id calls).2.byNode.values key).Sublist (calls.byNode.values key) := by
  rw [h.remove_eq]
  split
  · exact ⟨List.Sublist.refl _, List.Sublist.refl _⟩
  · simp only [Calls.drop, Listing.values_detach]
    constructor
    · split
      · exact List.filter_sublist
      · exact List.Sublist.refl _
    · split
      · exact List.filter_sublist
      · exact List.Sublist.refl _

end Calls

section Stored

variable {m : Memory} {op : Operation}

theorem rearranged_restored {call : Call} {answer : Answer}
    (accepted : ((Operation.storeCall call).run m).1 = .ok answer) (listed : List String)
    (belongs : Bool) :
    Rearranged (StoresCall m · (.storeCall call)) listed
      (restored listed call.id belongs) := by
  have unmoved : ∀ id ∈ listed.filter (· ≠ call.id), ¬ StoresCall m id (.storeCall call) := by
    rintro id hin ⟨_, _, same, rfl, -⟩
    cases same
    simp at hin
  cases belongs with
  | false =>
      rw [restored, if_neg Bool.false_ne_true, List.append_nil]
      exact .part List.filter_sublist unmoved
  | true => exact .put List.filter_sublist unmoved ⟨call, answer, rfl, rfl, accepted⟩

theorem Indexed.rearranged_calls_run (h : m.Indexed) (op : Operation) (key : String) :
    Rearranged (StoresCall m · op) (m.calls.byClient.values key)
        ((op.run m).2.calls.byClient.values key) ∧
      Rearranged (StoresCall m · op) (m.calls.byNode.values key)
        ((op.run m).2.calls.byNode.values key) := by
  have fewer (idle : ∀ id, ¬ StoresCall m id op) {listed listed' : List String}
      (sub : listed'.Sublist listed) : Rearranged (StoresCall m · op) listed listed' :=
    .part sub fun id _ => idle id
  have unchanged (idle : ∀ id, ¬ StoresCall m id op) (same : (op.run m).2.calls = m.calls) :
      Rearranged (StoresCall m · op) (m.calls.byClient.values key)
          ((op.run m).2.calls.byClient.values key) ∧
        Rearranged (StoresCall m · op) (m.calls.byNode.values key)
          ((op.run m).2.calls.byNode.values key) := by
    rw [same]
    exact ⟨fewer idle (List.Sublist.refl _), fewer idle (List.Sublist.refl _)⟩
  cases op with
  | storeCall call =>
      cases result : ((Operation.storeCall call).run m).1 with
      | error e =>
          have same : ((Operation.storeCall call).run m).2 = m :=
            eq_of_refused (.storeCall call) m _ e (Prod.ext result rfl)
          refine unchanged ?_ (congrArg Memory.calls same)
          rintro id ⟨_, answer, -, -, accepted⟩
          cases result.symm.trans accepted
      | ok answer =>
          obtain ⟨_, accepted, -⟩ := ok_of_map result
          have stored : ((Operation.storeCall call).run m).2.calls = _ := (storeCall_ok accepted).2
          obtain ⟨clients, nodes⟩ := h.calls.values_store call key
          rw [stored, clients, nodes]
          exact ⟨rearranged_restored result _ _, rearranged_restored result _ _⟩
  | removeCall id =>
      have idle : ∀ other, ¬ StoresCall m other (.removeCall id) := by
        rintro other ⟨_, _, same, -⟩
        cases same
      obtain ⟨clients, nodes⟩ := h.calls.sublist_remove id key
      exact ⟨fewer idle clients, fewer idle nodes⟩
  | _ =>
      refine unchanged ?_ rfl
      rintro id ⟨_, _, same, -⟩
      cases same

theorem InOrderOf.stored {ops : List Operation} {listed listed' : List String}
    (h : InOrderOf (StoredLast ops) listed)
    (change : Rearranged (StoresCall (after ops) · op) listed listed') :
    InOrderOf (StoredLast (ops ++ [op])) listed' :=
  h.rearranged change (fun _ _ last => last.stored.within)
    (fun _ _ kept _ => storedLast_concat_iff_of_kept kept)
    fun _ _ stores _ => storedLast_concat_iff_of_stores stores

theorem inOrderOf_stored (ops : List Operation) (key : String) :
    InOrderOf (StoredLast ops) ((after ops).calls.byClient.values key) ∧
      InOrderOf (StoredLast ops) ((after ops).calls.byNode.values key) := by
  induction ops using List.reverseRecOn with
  | nil => exact ⟨inOrderOf_nil _, inOrderOf_nil _⟩
  | append_singleton init op ih =>
      obtain ⟨clients, nodes⟩ := (indexed_after init).rearranged_calls_run op key
      rw [after_concat]
      exact ⟨ih.1.stored clients, ih.2.stored nodes⟩

end Stored

/-! ## What look-ups list -/

def hostnamesOn (platform : String) (m : Memory) : List String :=
  (Directory.nodesForPlatform platform m).map (·.hostname)

/-- The order of what look-ups list after a history, and what commands on nodes make of it. -/
structure ListsInOrder (ops : List Operation) (m : Memory) : Prop where
  nodes : ∀ platform node, node ∈ Directory.nodesForPlatform platform m ↔
    Directory.getNode? node.hostname m = some node ∧ platform ∈ node.platforms
  served : ∀ platform, InOrderOf (ServesSince ops platform) (hostnamesOn platform m)
  serving : ∀ platform hostname,
    hostname ∈ hostnamesOn platform m ↔ ∃ step, ServesSince ops platform hostname step
  /-- A new node goes to the end. -/
  stored : ∀ node answer, (Directory.storeNode node m).1 = .ok answer →
    ∀ platform, hostnamesOn platform (Directory.storeNode node m).2 =
      hostnamesOn platform m ++ if platform ∈ node.platforms then [node.hostname] else []
  /-- An update moves no node of the platforms that the node goes on serving. -/
  kept : ∀ node platform, node.hostname ∈ hostnamesOn platform m → platform ∈ node.platforms →
    hostnamesOn platform (Directory.updateNode node m).2 = hostnamesOn platform m
  dropped : ∀ node answer platform, (Directory.updateNode node m).1 = .ok answer →
    platform ∉ node.platforms → hostnamesOn platform (Directory.updateNode node m).2 =
      (hostnamesOn platform m).filter (· ≠ node.hostname)
  /-- A node that comes to a platform, or back to it, goes to the end. -/
  added : ∀ node answer platform, (Directory.updateNode node m).1 = .ok answer →
    platform ∈ node.platforms → node.hostname ∉ hostnamesOn platform m →
      hostnamesOn platform (Directory.updateNode node m).2 =
        hostnamesOn platform m ++ [node.hostname]
  removed : ∀ hostname platform, hostnamesOn platform (Directory.removeNode hostname m).2 =
    (hostnamesOn platform m).filter (· ≠ hostname)
  ofClient : ∀ client id, id ∈ Directory.callsForClient client m ↔
    ∃ call, Directory.getCall? id m = some call ∧ call.client = client
  onNode : ∀ hostname id, id ∈ Directory.callsForNode hostname m ↔
    ∃ call, Directory.getCall? id m = some call ∧ call.node = hostname
  clientCalls : ∀ client, InOrderOf (StoredLast ops) (Directory.callsForClient client m)
  nodeCalls : ∀ hostname, InOrderOf (StoredLast ops) (Directory.callsForNode hostname m)
  /-- A stored call goes to the end, wherever the call of its id was before. -/
  callStored : ∀ call answer, (Directory.storeCall call m).1 = .ok answer →
    (∀ client, Directory.callsForClient client (Directory.storeCall call m).2 =
      restored (Directory.callsForClient client m) call.id (call.client = client)) ∧
    ∀ hostname, Directory.callsForNode hostname (Directory.storeCall call m).2 =
      restored (Directory.callsForNode hostname m) call.id (call.node = hostname)

section Updated

variable {m : Memory} {node answer : Node} {platform : String}

theorem Indexed.hostnamesOn_eq (h : m.Indexed) (platform : String) :
    hostnamesOn platform m = m.nodes.byPlatform.values platform :=
  h.nodes.hostnames_forPlatform platform

theorem Indexed.hostnamesOn_storeNode (h : m.Indexed)
    (accepted : (Directory.storeNode node m).1 = .ok answer) (platform : String) :
    hostnamesOn platform (Directory.storeNode node m).2 =
      hostnamesOn platform m ++ if platform ∈ node.platforms then [node.hostname] else [] := by
  have after : (Directory.storeNode node m).2.Indexed := h.run (.storeNode node)
  have idle : ¬ Serves m.nodes.byHostname platform node.hostname :=
    not_at_of_none (h.nodes.of_store_ok accepted).1 _
  have unlisted := mt (h.nodes.platforms.mem_iff platform node.hostname).1 idle
  rw [after.hostnamesOn_eq, h.hostnamesOn_eq]
  refine (h.nodes.values_store accepted platform).trans ?_
  rw [placed, Listing.pushUnique, if_neg unlisted, h.nodes.platforms.filter_of_not_filed idle]
  split <;> simp

theorem Indexed.hostnamesOn_updateNode (h : m.Indexed)
    (accepted : (Directory.updateNode node m).1 = .ok answer) (platform : String) :
    hostnamesOn platform (Directory.updateNode node m).2 =
      placed platform node (hostnamesOn platform m) := by
  have after : (Directory.updateNode node m).2.Indexed := h.run (.updateNode node)
  rw [after.hostnamesOn_eq, h.hostnamesOn_eq]
  exact h.nodes.values_update accepted platform

theorem Indexed.hostnamesOn_updateNode_of_kept (h : m.Indexed)
    (listed : node.hostname ∈ hostnamesOn platform m) (keeps : platform ∈ node.platforms) :
    hostnamesOn platform (Directory.updateNode node m).2 = hostnamesOn platform m := by
  cases result : (Directory.updateNode node m).1 with
  | error e =>
      have refused := atomic_onNodes (Nodes.atomic_update node) m _ e (Prod.ext result rfl)
      exact congrArg (hostnamesOn platform) refused
  | ok answer =>
      rw [h.hostnamesOn_updateNode result, placed, if_pos keeps, Listing.pushUnique,
        if_pos listed]

theorem Indexed.hostnamesOn_removeNode (h : m.Indexed) (hostname platform : String) :
    hostnamesOn platform (Directory.removeNode hostname m).2 =
      (hostnamesOn platform m).filter (· ≠ hostname) := by
  have after : (Directory.removeNode hostname m).2.Indexed := h.run (.removeNode hostname)
  rw [after.hostnamesOn_eq, h.hostnamesOn_eq, (h.edited_removeNode hostname).platforms]
  simp only [List.mem_singleton, ne_eq]

end Updated

/-- After every history the nodes of a platform are listed in the order in which they began to serve
it without a break since, and the calls of a client or of a node in the order in which they were
stored last. -/
theorem lists_in_order_after_history (ops : List Operation) : ListsInOrder ops (after ops) := by
  have indexed := indexed_after ops
  have served (platform : String) :
      InOrderOf (ServesSince ops platform) (hostnamesOn platform (after ops)) :=
    indexed.hostnamesOn_eq platform ▸ inOrderOf_served ops platform
  have calls := indexed.callsFound
  constructor
  case nodes => exact indexed.nodesFound.nodesForPlatform
  case served => exact served
  case serving =>
    intro platform hostname
    constructor
    · exact (served platform).dated hostname
    · rintro ⟨step, since⟩
      rw [indexed.hostnamesOn_eq]
      exact (indexed.nodes.platforms.mem_iff platform hostname).2 since.serves
  case stored => exact fun node answer => indexed.hostnamesOn_storeNode
  case kept => exact fun node platform => indexed.hostnamesOn_updateNode_of_kept
  case dropped =>
    intro node answer platform accepted drops
    rw [indexed.hostnamesOn_updateNode accepted, placed, if_neg drops]
  case added =>
    intro node answer platform accepted adds new
    rw [indexed.hostnamesOn_updateNode accepted, placed, if_pos adds, Listing.pushUnique,
      if_neg new]
  case removed => exact indexed.hostnamesOn_removeNode
  case ofClient => exact calls.forClient
  case onNode => exact calls.forNode
  case clientCalls => exact fun client => (inOrderOf_stored ops client).1
  case nodeCalls => exact fun hostname => (inOrderOf_stored ops hostname).2
  case callStored =>
    intro call answer accepted
    have stored := (storeCall_ok accepted).2
    have lists (key : String) := stored ▸ indexed.calls.values_store call key
    exact ⟨fun client => (lists client).1, fun hostname => (lists hostname).2⟩

/-- A node that left its platform and came back is the last there, and a call that was stored twice
is the last of its client. -/
theorem lists_in_order_after_return :
    let a : Node := ⟨"a", "1", .ofList ["p"], 1, 1, 0, false⟩
    let b : Node := ⟨"b", "2", .ofList ["p"], 1, 1, 0, false⟩
    let ops : List Operation := [.storeNode a, .storeNode b, .updateNode { a with priority := 2 },
      .storeCall ⟨"1", "c@d", "a"⟩, .storeCall ⟨"2", "c@d", "a"⟩, .storeCall ⟨"1", "c@d", "b"⟩,
      .updateNode { a with platforms := ∅ }, .updateNode a]
    ListsInOrder ops (after ops) ∧
      hostnamesOn "p" (after (ops.take 3)) = ["a", "b"] ∧
      hostnamesOn "p" (after ops) = ["b", "a"] ∧
      Directory.callsForClient "c@d" (after ops) = ["2", "1"] ∧
      Directory.callsForNode "a" (after ops) = ["2"] ∧
      Directory.callsForNode "b" (after ops) = ["1"] := by
  intro a b ops
  refine ⟨lists_in_order_after_history ops, ?_⟩
  decide +kernel

end Switchboard.Memory
