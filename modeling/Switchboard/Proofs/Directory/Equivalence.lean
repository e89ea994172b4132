import Switchboard.Columns.Runtime
import Switchboard.Directory.Memory.Basic
import Switchboard.Proofs.Directory.Mirror.Applications
import Switchboard.Proofs.Directory.Mirror.Calls
import Switchboard.Proofs.Directory.Replicated.History
import Switchboard.Proofs.Directory.Replicated.Opening

/-! # Both directories give the same answers

The directory in memory and the one on a cluster start without records and hold the same
records after every operation, so that one answers as the other does. The order in which
a listing comes may differ, as arrival orders the listings in memory and the name those in
the tables.
-/

namespace Switchboard

open Switchboard.Columns Switchboard.Mirror Switchboard.Replicated
open RawJid (NoBareSlash)

/-! ## Answers that agree -/

def Answer.SameUpToOrder : Answer → Answer → Prop
  | .nodes left, .nodes right => left.Perm right
  | .texts left, .texts right => left.Perm right
  | left, right => left = right

theorem Answer.sameUpToOrder_refl (answer : Answer) : answer.SameUpToOrder answer := by
  cases answer with
  | nodes list => exact List.Perm.refl list
  | texts list => exact List.Perm.refl list
  | _ => rfl

namespace Operation

/-- Both sides refuse the operation for one reason, or their answers agree; the lists of all
platforms, calls and clients agree in their order too. -/
def Agrees (op : Operation) (left right : Except DirectoryError Answer) : Prop :=
  match op with
  | .platforms | .calls | .clients => left = right
  | _ =>
    match left, right with
    | .ok left, .ok right => left.SameUpToOrder right
    | left, right => left = right

theorem agrees_refl (op : Operation) (result : Except DirectoryError Answer) :
    op.Agrees result result := by
  cases op with
  | platforms | calls | clients => rfl
  | _ =>
      cases result with
      | error e => rfl
      | ok answer => exact answer.sameUpToOrder_refl

/-- Platforms have plain names, clients are cut from their JID, and a JID that names a client does
not end with its first slash. -/
def Admissible : Operation → Prop
  | .storeNode node | .updateNode node => node.HasPlainNames
  | .storeClient client =>
    client = Client.ofJid client.jid client.platform ∧ NoBareSlash client.jid
  | .removeClient jid | .getClient jid | .clientResources jid => NoBareSlash jid
  | _ => True

end Operation

/-- At every step both directories give answers that agree. Before each operation some time may
pass for the cluster. -/
def InStep (m : Memory) (r : Replicated) : List (Duration × Operation) → Prop
  | [] => True
  | (span, op) :: rest =>
    let r := r.after (.advance span)
    op.Agrees (op.run m).1 (op.run r).1 ∧ InStep (op.run m).2 (op.run r).2 rest

/-! ## Equal records -/

/-- Nothing is made to fail, and the tables hold the records in memory. -/
structure Mirrors (m : Memory) (r : Replicated) : Prop where
  live : r.Live
  nodes : NodesMirrored m.nodes r.contents
  calls : CallsMirrored m.calls r.contents
  applications : ApplicationsMirrored m.applications r.contents

variable {m : Memory} {r : Replicated}

theorem mirrors_empty (live : r.Live) (empty : r.Empty) : Mirrors {} r where
  live := live
  nodes := nodesMirrored_empty empty
  calls := callsMirrored_empty empty
  applications := applicationsMirrored_empty empty

theorem Mirrors.of_contents_eq (h : Mirrors m r) {r' : Replicated} (live : r'.Live)
    (same : r'.contents = r.contents) : Mirrors m r' := by
  refine ⟨live, ?_, ?_, ?_⟩
  · rw [same]
    exact h.nodes
  · rw [same]
    exact h.calls
  · rw [same]
    exact h.applications

theorem Mirrors.noteRead (h : Mirrors m r) : Mirrors m r.noteRead :=
  h.of_contents_eq h.live.noteRead (contents_noteRead r)

theorem Mirrors.advance (h : Mirrors m r) (span : Duration) :
    Mirrors m (r.after (.advance span)) := by
  obtain ⟨keyspace, ready⟩ := h.live.ready
  have ready' : (r.after (.advance span)).Ready keyspace :=
    ⟨ready.stored, ready.orderly, ready.graces⟩
  exact h.of_contents_eq ⟨⟨keyspace, ready'⟩, h.live.reads, h.live.writes⟩ rfl

/-! ## Commands of one family -/

section Families

variable {α : Type} {right : Except DirectoryError α × Replicated}

theorem Mirrors.onNodes (h : Mirrors m r) {left : Except DirectoryError α × Memory.Nodes}
    (same : Matches nodeTables NodesMirrored r left right) :
    Mirrors { m with nodes := left.2 } right.2 where
  live := same.live
  nodes := same.held
  calls := h.calls.of_contents_eq fun table hin => same.kept table
    ((show ∀ table ∈ callTables, table ∉ nodeTables by decide) table hin)
  applications := h.applications.of_contents_eq fun table hin => same.kept table
    ((show ∀ table ∈ clientTables ++ applicationTables, table ∉ nodeTables by decide) table hin)

theorem Mirrors.onCalls (h : Mirrors m r) {left : Except DirectoryError α × Memory.Calls}
    (same : Matches callTables CallsMirrored r left right) :
    Mirrors { m with calls := left.2 } right.2 where
  live := same.live
  nodes := h.nodes.of_contents_eq fun table hin => same.kept table
    ((show ∀ table ∈ nodeTables, table ∉ callTables by decide) table hin)
  calls := same.held
  applications := h.applications.of_contents_eq fun table hin => same.kept table
    ((show ∀ table ∈ clientTables ++ applicationTables, table ∉ callTables by decide) table hin)

theorem Mirrors.onApplications (h : Mirrors m r) {own : List String}
    {left : Except DirectoryError α × Memory.Applications}
    (same : Matches own ApplicationsMirrored r left right)
    (family : own ⊆ clientTables ++ applicationTables) :
    Mirrors { m with applications := left.2 } right.2 where
  live := same.live
  nodes := h.nodes.of_contents_eq fun table hin => same.kept table fun own =>
    (show ∀ table ∈ nodeTables, table ∉ clientTables ++ applicationTables by decide) table hin
      (family own)
  calls := h.calls.of_contents_eq fun table hin => same.kept table fun own =>
    (show ∀ table ∈ callTables, table ∉ clientTables ++ applicationTables by decide) table hin
      (family own)
  applications := same.held

end Families

/-! ## One operation -/

/-- The operation is answered alike, and the records are equal after it. -/
def Alike (m : Memory) (r : Replicated) (op : Operation) : Prop :=
  op.Agrees (op.run m).1 (op.run r).1 ∧ Mirrors (op.run m).2 (op.run r).2

theorem alike_command {op : Operation} {α : Type} {f : α → Answer}
    {left : Except DirectoryError α × Memory} {right : Except DirectoryError α × Replicated}
    (hm : op.run m = Operation.answer f left) (hr : op.run r = Operation.answer f right)
    (result : left.1 = right.1) (after : Mirrors left.2 right.2) : Alike m r op := by
  rw [Alike, hm, hr, Operation.answer, Operation.answer, result]
  exact ⟨op.agrees_refl _, after⟩

theorem Mirrors.alike_lookup (h : Mirrors m r) {op : Operation} {left right : Answer}
    (hm : op.run m = (.ok left, m)) (hr : op.run r = (.ok right, r.noteRead))
    (same : right = left) : Alike m r op := by
  rw [Alike, hm, hr, same]
  exact ⟨op.agrees_refl _, h.noteRead⟩

/-- Every operation keeps the records equal and is answered alike. -/
theorem Mirrors.alike (h : Mirrors m r) {op : Operation} (admissible : op.Admissible) :
    Alike m r op := by
  cases op with
  | storeNode node =>
      have same := matches_storeNode h.live h.nodes admissible
      exact alike_command rfl rfl same.result (h.onNodes same)
  | updateNode node =>
      have same := matches_updateNode h.live h.nodes admissible
      exact alike_command rfl rfl same.result (h.onNodes same)
  | removeNode hostname =>
      have same := matches_removeNode h.live h.nodes hostname
      exact alike_command rfl rfl same.result (h.onNodes same)
  | getNode hostname =>
      have same := node?_mirrored h.live h.nodes hostname
      exact h.alike_lookup rfl rfl (congrArg Answer.node same)
  | findNode hostname =>
      have same := fetchNode_mirrored h.live h.nodes hostname
      have hr : (Operation.findNode hostname).run r =
          ((r.fetchNode hostname).map .node, r.noteRead) := rfl
      rw [same] at hr
      exact h.alike_lookup rfl hr rfl
  | nodeForIp ip =>
      have same := nodeForIp?_mirrored h.live h.nodes ip
      exact h.alike_lookup rfl rfl (congrArg Answer.node same)
  | nodesForPlatform platform =>
      exact ⟨nodesForPlatform_mirrored h.live h.nodes platform, h.noteRead⟩
  | platforms =>
      have same := platforms_mirrored h.live h.nodes
      exact h.alike_lookup rfl rfl (congrArg Answer.texts same.symm)
  | storeCall call =>
      have same := matches_storeCall h.live h.nodes h.calls call
      have hm : (Operation.storeCall call).run m =
          Operation.answer (.call ∘ some) (Memory.onCalls (storeHosted m.nodes call) m) := by
        rw [Operation.run, storeCall_eq_storeHosted]
      exact alike_command hm rfl same.result (h.onCalls same)
  | removeCall id =>
      have same := matches_removeCall h.live h.calls id
      exact alike_command rfl rfl same.result (h.onCalls same)
  | getCall id =>
      have same := getCall?_mirrored h.live h.calls id
      exact h.alike_lookup rfl rfl (congrArg Answer.call same)
  | nodeForCall id =>
      have same := getCall?_mirrored h.live h.calls id
      exact h.alike_lookup rfl rfl (congrArg (fun call => Answer.text (call.map (·.node))) same)
  | calls =>
      have same := calls_mirrored h.live h.calls
      exact h.alike_lookup rfl rfl (congrArg Answer.texts same.symm)
  | callsForClient jid => exact ⟨callsForClient_mirrored h.live h.calls jid, h.noteRead⟩
  | callsForNode hostname =>
      exact ⟨callsForNode_mirrored h.live h.calls hostname, h.noteRead⟩
  | storeClient client =>
      have same := matches_storeClient h.live h.applications admissible.1 admissible.2
      exact alike_command rfl rfl same.result (h.onApplications same (by decide))
  | removeClient jid =>
      have same := matches_removeClient h.live h.applications admissible
      exact alike_command rfl rfl same.result (h.onApplications same (by decide))
  | getClient jid =>
      have same := getClient?_mirrored h.live h.applications admissible
      exact h.alike_lookup rfl rfl (congrArg Answer.client same)
  | clientResources jid =>
      exact ⟨clientResources_mirrored h.live h.applications jid, h.noteRead⟩
  | clients =>
      have same := clients_mirrored h.live h.applications
      exact h.alike_lookup rfl rfl (congrArg Answer.texts same.symm)
  | storeApplication app =>
      have same := matches_storeApplication h.live h.applications app
      exact alike_command rfl rfl same.result (h.onApplications same (by decide))
  | getApplication jid =>
      have same := application?_mirrored h.live h.applications jid
      exact h.alike_lookup rfl rfl (congrArg Answer.application same)
  | removeApplication jid =>
      have same := matches_removeApplication h.live h.applications jid
      exact alike_command rfl rfl same.result (h.onApplications same (by decide))
  | storeAddress address jid =>
      have same := matches_storeAddresses h.live h.applications [address] jid
      exact alike_command rfl rfl same.result (h.onApplications same (by decide))
  | storeAddresses addresses jid =>
      have same := matches_storeAddresses h.live h.applications addresses jid
      exact alike_command rfl rfl same.result (h.onApplications same (by decide))
  | removeAddress address =>
      have same := matches_removeAddress h.live h.applications address
      exact alike_command rfl rfl same.result (h.onApplications same (by decide))
  | applicationForAddress address =>
      have same := applicationForAddress?_mirrored h.live h.applications address
      exact h.alike_lookup rfl rfl (congrArg Answer.application same)
  | addressesForApplication jid =>
      exact ⟨addressesForApplication_mirrored h.live h.applications jid, h.noteRead⟩

/-! ## Every history -/

theorem Mirrors.inStep (h : Mirrors m r) {steps : List (Duration × Operation)}
    (admissible : ∀ step ∈ steps, step.2.Admissible) : InStep m r steps := by
  induction steps generalizing m r with
  | nil => trivial
  | cons step rest ih =>
      obtain ⟨span, op⟩ := step
      have first := (h.advance span).alike (admissible (span, op) List.mem_cons_self)
      exact ⟨first.1, ih first.2 fun s hs => admissible s (List.mem_cons_of_mem _ hs)⟩

/-- The directory opens on a cluster without keyspaces that can be reached, and then it is in step
with an empty directory in memory through every history of admissible operations. -/
theorem directories_in_step [Timer] {settings : StoreSettings} {cluster : Cluster}
    (empty : cluster.keyspaces = ∅)
    (reached : Cluster.connect settings.host settings.port = .ok ())
    (reads : cluster.failReads = false) (writes : cluster.failWrites = false) :
    ∃ start, openOn settings cluster = (.ok start, start.cluster) ∧
      ∀ steps : List (Duration × Operation), (∀ step ∈ steps, step.2.Admissible) →
        InStep {} start steps := by
  obtain ⟨start, keyspace, opened, ready, blank, same⟩ := openOn_of_connect empty reached
  have live : start.Live :=
    ⟨⟨keyspace, ready⟩, same.failReads.trans reads, same.failWrites.trans writes⟩
  exact ⟨start, opened, fun _ admissible => (mirrors_empty live blank).inStep admissible⟩

/-- A node is stored and, after a second, one that would take its IP address is refused. -/
theorem directories_in_step_on_taken_ip :
    let platforms := Std.ExtTreeSet.ofList ["pstn", "sip"]
    let first : Node := ⟨"a", "10.0.0.1", platforms, 1, 1, 0, false⟩
    let second : Node := ⟨"b", "10.0.0.1", platforms, 1, 1, 0, false⟩
    ∃ start, openOn {} {} = (.ok start, start.cluster) ∧
      InStep {} start [(0, .storeNode first), (1000, .storeNode second), (0, .platforms)] := by
  intro platforms first second
  have plain : ∀ platform ∈ platforms, PlainName platform := by
    intro platform hin
    have hnames : platform = "pstn" ∨ platform = "sip" := by simpa [platforms] using hin
    rcases hnames with rfl | rfl
    · exact ⟨by decide, by decide⟩
    · exact ⟨by decide, by decide⟩
  have started := directories_in_step (show ({} : Cluster).keyspaces = ∅ from rfl)
    (show Cluster.connect ({} : StoreSettings).host ({} : StoreSettings).port = .ok () from rfl)
    rfl rfl
  obtain ⟨start, opened, inStep⟩ := started
  refine ⟨start, opened, inStep _ fun step hstep => ?_⟩
  simp only [List.mem_cons, List.not_mem_nil, or_false] at hstep
  rcases hstep with rfl | rfl | rfl
  · exact plain
  · exact plain
  · trivial

end Switchboard
