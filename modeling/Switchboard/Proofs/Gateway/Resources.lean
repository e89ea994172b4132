import Switchboard.Columns.Runtime
import Switchboard.Gateway.Action
import Switchboard.Proofs.Directory.Enrolment
import Switchboard.Proofs.Gateway.Registration
import Switchboard.Proofs.Gateway.Selection
import Switchboard.Proofs.Jid.Parse

/-! # Bound resources in turn

The registered clients of a history are those that it has registered and not removed, as its answers
tell. A pick recomposes a full JID from a bare JID and one of its resources in order. It answers
a registered client whenever there is one, and picks under one bare JID go round its clients, each
in its turn.
-/

namespace Switchboard

open Switchboard.Maps Switchboard.Records
open Switchboard.Columns (Duration)
open RawJid (NoBareSlash bare resource)

/-! ## Histories of clients -/

namespace Action

/-- The action registers, looks up or picks clients, or it is an operation of the directory that
stores no client. -/
def ServesClients : Action → Prop
  | .directory op => ∀ client, op ≠ .storeClient client
  | .registerClient _ | .resources _ | .platformForClient _ | .pickResource _ => True
  | _ => False

/-- The registered clients after an action that was answered so. -/
def enrol (clients : ClientMap) : Action → Except GatewayError Outcome → ClientMap
  | .registerClient _, .ok (.answer (.client (some client))) => clients.insert client.jid client
  | .directory (.removeClient _), .ok (.answer (.client (some client))) => without clients client
  | _, _ => clients

/-- What a pick under the bare JID was answered. -/
def picked (row : String) : Action → Except GatewayError Outcome → List (Option String)
  | .pickResource text, .ok (.answer (.text jid)) => if bare text = row then [jid] else []
  | _, _ => []

end Action

namespace Gateway

/-- The gateway when some time has passed for its cluster. -/
def wait (g : Gateway Backend) (span : Duration) : Gateway Backend :=
  { g with directory := g.directory.after (.advance span) }

/-- The gateway and the registered clients after a history. Before each action some time passes. -/
def enrolling (g : Gateway Backend) (clients : ClientMap) :
    List (Duration × Action) → Gateway Backend × ClientMap
  | [] => (g, clients)
  | (span, action) :: rest =>
    let performed := action.perform (g.wait span)
    performed.2.enrolling (action.enrol clients performed.1) rest

def picksUnder (row : String) (g : Gateway Backend) :
    List (Duration × Action) → List (Option String)
  | [] => []
  | (span, action) :: rest =>
    let performed := action.perform (g.wait span)
    action.picked row performed.1 ++ performed.2.picksUnder row rest

def clientTurn (g : Gateway Backend) (row : String) : UInt64 :=
  (g.clientCursors[row]?).getD 0

variable {g : Gateway Backend} {clients : ClientMap} {action : Action} {row text : String}

/-! ## The line of clients -/

/-- The JIDs of one bare JID in order of resource, put together from their parts. -/
def clientLine (row : String) (jids : List String) : List String :=
  ((jids.map resource).mergeSort).map (resourceJid row)

theorem clientLine_eq_nil_iff {jids : List String} : clientLine row jids = [] ↔ jids = [] := by
  rw [clientLine, List.map_eq_nil_iff, ← List.length_eq_zero_iff, List.length_mergeSort,
    List.length_map, List.length_eq_zero_iff]

theorem resourceJid_parts {jid : String} (ends : NoBareSlash jid) :
    resourceJid (bare jid) (resource jid) = jid := by
  simp only [resourceJid, String.isEmpty_iff]
  exact (RawJid.eq_of_noBareSlash ends).symm

theorem clientLine_perm (cut : Cut clients) (row : String) :
    (clientLine row (under clients row)).Perm (under clients row) := by
  have whole : ((under clients row).map resource).map (resourceJid row) = under clients row := by
    rw [List.map_map]
    refine (List.map_congr_left fun jid hin => ?_).trans (List.map_id _)
    obtain ⟨ends, rfl⟩ := cut.of_mem_under hin
    exact resourceJid_parts ends
  have sorted := (List.mergeSort_perm ((under clients row).map resource) (· ≤ ·)).map
    (resourceJid row)
  rwa [whole] at sorted

/-- A pick answers the JID at which the cursor stands, and moves the cursor on if there is one. -/
theorem pickResource_eq (enrols : g.directory.Enrols clients) (text : String) :
    let jids := clientLine (bare text) (under clients (bare text))
    let turn := g.clientTurn (bare text)
    (g.pickResource text).1 = jids[turn.toNat % jids.length]? ∧
      (g.pickResource text).2.clientCursors =
        if jids = [] then g.clientCursors else g.clientCursors.insert (bare text) (turn + 1) := by
  intro jids turn
  have listed : Directory.clientResources (bare (bare text)) g.directory =
      Directory.clientResources text g.directory := by
    rw [Backend.clientResources_bare, Backend.clientResources_bare]
  have same := enrols.clientResources_perm text
  have sorted : ((Directory.clientResources text g.directory).mergeSort).map
      (resourceJid (bare text)) = jids := by
    rw [Selection.mergeSort_eq_of_perm same]
    rfl
  unfold pickResource resources look
  dsimp only
  rw [listed]
  by_cases empty : Directory.clientResources text g.directory = []
  · have none : jids = [] := by simp [← sorted, empty]
    rw [if_pos none, none, empty]
    exact ⟨rfl, rfl⟩
  · have some : jids ≠ [] := by
      rw [← sorted, ne_eq, List.map_eq_nil_iff, ← List.length_eq_zero_iff, List.length_mergeSort]
      exact mt List.length_eq_zero_iff.1 empty
    rw [if_neg some, if_neg (by simpa using empty), ← sorted, List.length_map, List.getElem?_map]
    exact ⟨rfl, rfl⟩

/-! ## One action -/

theorem enrol_of_leavesClients {op : Operation} (leaves : op.LeavesClients)
    (outcome : Except GatewayError Outcome) :
    Action.enrol clients (.directory op) outcome = clients := by
  cases op with
  | storeClient | removeClient => exact leaves.elim
  | _ => rfl

theorem directory_pickResource (g : Gateway Backend) (text : String) :
    (g.pickResource text).2.directory = Directory.noteLookup g.directory := by
  unfold pickResource resources look
  dsimp only
  split <;> rfl

theorem enrols_registerClient (enrols : g.directory.Enrols clients) (text : String) :
    let (result, g') := g.registerClient text
    match result with
    | .ok client => g'.directory.Enrols (clients.insert client.jid client)
    | .error _ => g'.directory.Enrols clients := by
  cases parsed : Jid.parse text with
  | error e =>
      rw [registerClient_of_parse_error parsed]
      exact enrols
  | ok jid =>
      have stored : (Directory.storeClient (.ofJid jid.render (g.platformOf jid))
          (Directory.noteLookup g.directory)).1 = .ok (.ofJid jid.render (g.platformOf jid)) :=
        (enrols.noteLookup.inOrder.storeClient jid.render (g.platformOf jid)).1
      have enrols' := enrols.noteLookup.storeClient (Jid.noBareSlash_of_parse parsed)
        (g.platformOf jid)
      rw [registerClient_of_parse parsed, command, noteLookup]
      dsimp only
      rw [stored]
      exact enrols'

/-- What an action answers tells which clients are registered after it. -/
theorem enrols_perform (enrols : g.directory.Enrols clients) (serves : action.ServesClients) :
    (action.perform g).2.directory.Enrols (action.enrol clients (action.perform g).1) := by
  cases action with
  | directory op =>
      have elsewhere (leaves : op.LeavesClients) :
          ((Action.directory op).perform g).2.directory.Enrols
            (Action.enrol clients (.directory op) ((Action.directory op).perform g).1) := by
        rw [enrol_of_leavesClients leaves]
        exact enrols.run leaves
      cases op with
      | storeClient client => exact absurd rfl (serves client)
      | removeClient jid =>
          have kept := enrols.removeClient jid
          change (Directory.removeClient jid g.directory).2.Enrols (Action.enrol clients _
            (Except.map Outcome.answer (Except.mapError GatewayError.directory (Except.map
              (Answer.client ∘ some) (Directory.removeClient jid g.directory).1))))
          rcases removed : Directory.removeClient jid g.directory with ⟨e | client, b⟩
          · rw [removed] at kept
            exact kept
          · rw [removed] at kept
            exact kept
      | _ => exact elsewhere trivial
  | registerClient text =>
      have kept := enrols_registerClient enrols text
      change (g.registerClient text).2.directory.Enrols (Action.enrol clients _
        (Except.map (fun client => Outcome.answer (.client (some client)))
          (g.registerClient text).1))
      rcases registered : g.registerClient text with ⟨e | client, g'⟩
      · rw [registered] at kept
        exact kept
      · rw [registered] at kept
        exact kept
  | resources | platformForClient => exact enrols.noteLookup
  | pickResource text =>
      have looked := enrols.noteLookup
      rw [← directory_pickResource g text] at looked
      exact looked
  | _ => exact serves.elim

theorem clientTurn_pickResource (enrols : g.directory.Enrols clients) (text : String) :
    (g.pickResource text).2.clientTurn row =
      if row = bare text ∧ clientLine row (under clients row) ≠ [] then g.clientTurn row + 1
      else g.clientTurn row := by
  obtain ⟨-, cursors⟩ := pickResource_eq enrols text
  rw [clientTurn, cursors]
  by_cases own : row = bare text
  · subst own
    by_cases empty : clientLine (bare text) (under clients (bare text)) = []
    · rw [if_pos empty, if_neg (not_and_not_right.2 fun _ => empty)]
      rfl
    · rw [if_neg empty, if_pos ⟨rfl, empty⟩, Maps.getElem?_insert, if_pos rfl]
      rfl
  · rw [if_neg (mt And.left own)]
    split
    · rfl
    · rw [Maps.getElem?_insert, if_neg (Ne.symm own)]
      rfl

/-- An action picks nothing under the bare JID, or the JID at which the cursor stands. -/
theorem picked_perform (enrols : g.directory.Enrols clients) (serves : action.ServesClients)
    (row : String) :
    (action.picked row (action.perform g).1 = [] ∧
        (action.perform g).2.clientTurn row = g.clientTurn row) ∨
      let jids := clientLine row (under clients row)
      action.picked row (action.perform g).1 =
          [jids[(g.clientTurn row).toNat % jids.length]?] ∧
        (action.perform g).2.clientTurn row =
          if jids ≠ [] then g.clientTurn row + 1 else g.clientTurn row := by
  cases action with
  | directory | resources | platformForClient => exact .inl ⟨rfl, rfl⟩
  | registerClient text =>
      have cursors : (g.registerClient text).2.clientCursors = g.clientCursors := by
        unfold registerClient
        split <;> rfl
      exact .inl ⟨rfl, congrArg (fun cursors : Cursors => (cursors[row]?).getD 0) cursors⟩
  | pickResource text =>
      obtain ⟨answered, -⟩ := pickResource_eq enrols text
      have turned : (g.pickResource text).2.clientTurn row =
          if row = bare text ∧ clientLine row (under clients row) ≠ [] then g.clientTurn row + 1
          else g.clientTurn row := clientTurn_pickResource enrols text
      by_cases own : bare text = row
      · subst own
        refine .inr ⟨?_, turned.trans ?_⟩
        · rw [← answered]
          exact if_pos rfl
        · simp
      · refine .inl ⟨if_neg own, turned.trans (if_neg ?_)⟩
        exact fun h => own h.1.symm
  | _ => exact serves.elim

/-! ## Histories -/

/-- The clients of the bare JID stay as they are throughout the history. -/
def KeepsClients (g : Gateway Backend) (clients : ClientMap) (row : String)
    (steps : List (Duration × Action)) : Prop :=
  ∀ front, front <+: steps → under (g.enrolling clients front).2 row = under clients row

variable {steps window : List (Duration × Action)}

theorem enrols_enrolling (enrols : g.directory.Enrols clients)
    (serve : ∀ step ∈ steps, step.2.ServesClients) :
    (g.enrolling clients steps).1.directory.Enrols (g.enrolling clients steps).2 := by
  induction steps generalizing g clients with
  | nil => exact enrols
  | cons step rest ih =>
      obtain ⟨span, action⟩ := step
      have waited : (g.wait span).directory.Enrols clients := enrols.advance span
      obtain ⟨(serves : action.ServesClients), serveRest⟩ := List.forall_mem_cons.1 serve
      exact ih (enrols_perform waited serves) serveRest

theorem toNat_add_one_le (turn : UInt64) : (turn + 1).toNat ≤ turn.toNat + 1 := by
  rw [UInt64.toNat_add]
  exact Nat.mod_le _ _

/-- A cursor moves on by no more than one turn for each pick. -/
theorem toNat_clientTurn_le (enrols : g.directory.Enrols clients)
    (serve : ∀ step ∈ steps, step.2.ServesClients) (row : String) :
    ((g.enrolling clients steps).1.clientTurn row).toNat ≤
      (g.clientTurn row).toNat + (g.picksUnder row steps).length := by
  induction steps generalizing g clients with
  | nil => exact Nat.le_refl _
  | cons step rest ih =>
      obtain ⟨span, action⟩ := step
      have waited : (g.wait span).directory.Enrols clients := enrols.advance span
      obtain ⟨(serves : action.ServesClients), serveRest⟩ := List.forall_mem_cons.1 serve
      have later := ih (enrols_perform waited serves) serveRest
      have first : ((action.perform (g.wait span)).2.clientTurn row).toNat ≤
          (g.clientTurn row).toNat +
            (action.picked row (action.perform (g.wait span)).1).length := by
        rcases picked_perform waited serves row with ⟨picked, turned⟩ | ⟨picked, turned⟩
        · rw [turned, picked]
          exact Nat.le_refl _
        · rw [turned, picked]
          split
          · exact toNat_add_one_le _
          · exact Nat.le_add_right _ _
      rw [picksUnder, List.length_append]
      refine later.trans ?_
      omega

theorem picksUnder_append (g : Gateway Backend) (clients : ClientMap)
    (steps window : List (Duration × Action)) :
    g.picksUnder row (steps ++ window) =
      g.picksUnder row steps ++ (g.enrolling clients steps).1.picksUnder row window := by
  induction steps generalizing g clients with
  | nil => rfl
  | cons step rest ih =>
      obtain ⟨span, action⟩ := step
      rw [List.cons_append, picksUnder, picksUnder, List.append_assoc]
      exact congrArg _ (ih _ _)

/-- While the registered clients of a bare JID stay the same, its picks answer JIDs that follow on
each other in their line. -/
theorem picksUnder_eq (enrols : g.directory.Enrols clients)
    (serve : ∀ step ∈ window, step.2.ServesClients) {jids : List String} (some : jids ≠ [])
    (steady : ∀ front, front <+: window → under (g.enrolling clients front).2 row = jids)
    (few : (g.clientTurn row).toNat + (g.picksUnder row window).length < UInt64.size) :
    g.picksUnder row window =
      (List.range' (g.clientTurn row).toNat (g.picksUnder row window).length).map fun turn =>
        (clientLine row jids)[turn % (clientLine row jids).length]? := by
  induction window generalizing g clients with
  | nil => rfl
  | cons step rest ih =>
      obtain ⟨span, action⟩ := step
      have waited : (g.wait span).directory.Enrols clients := enrols.advance span
      obtain ⟨(serves : action.ServesClients), serveRest⟩ := List.forall_mem_cons.1 serve
      obtain rfl : under clients row = jids := steady [] (List.nil_prefix)
      have later := ih (enrols_perform waited serves) serveRest fun front hfront =>
        steady ((span, action) :: front) (List.cons_prefix_cons.2 ⟨rfl, hfront⟩)
      rw [picksUnder] at few ⊢
      rcases picked_perform waited serves row with ⟨picked, turned⟩ | ⟨picked, turned⟩
      · rw [turned] at later
        rw [picked, List.nil_append] at few ⊢
        exact later few
      · rw [picked, List.singleton_append, List.length_cons] at few ⊢
        have moved : ((action.perform (g.wait span)).2.clientTurn row).toNat =
            (g.clientTurn row).toNat + 1 := by
          rw [turned, if_pos (mt clientLine_eq_nil_iff.1 some), UInt64.toNat_add]
          have within : (g.clientTurn row).toNat + 1 < UInt64.size := by omega
          exact Nat.mod_eq_of_lt within
        rw [moved] at later
        rw [List.range'_succ, List.map_cons]
        exact congrArg (_ :: ·) (later (by omega))

theorem round_perm (jids : List String) (turn : Nat) :
    ((List.range' turn jids.length).map fun turn => jids[turn % jids.length]?).Perm
      (jids.map some) := by
  have whole : ((List.range' turn jids.length).map fun turn => jids[turn % jids.length]?).length =
      (jids.map some).length := by
    rw [List.length_map, List.length_range', List.length_map]
  refine Selection.perm_of_goes_round turn whole fun made within => ?_
  rw [whole, List.length_map] at within
  have place : (turn + made) % jids.length < jids.length :=
    Nat.mod_lt _ (Nat.zero_lt_of_lt within)
  rw [List.getElem?_map, List.getElem?_range' within, Nat.one_mul, Option.map_some,
    List.length_map, List.getElem?_map, List.getElem?_eq_getElem place, Option.map_some]

/-! ## Picks -/

/-- A pick under the bare part of a text answers one of the registered clients there. -/
structure Offers (g : Gateway Backend) (clients : ClientMap) (text : String) : Prop where
  none_iff : (g.pickResource text).1 = none ↔
    ∀ (jid : String) (client : Client), clients[jid]? = some client → client.bareJid ≠ bare text
  registered : ∀ jid, (g.pickResource text).1 = some jid →
    ∃ client, clients[jid]? = some client ∧ client.jid = jid ∧ client.bareJid = bare text ∧
      ((g.pickResource text).2.platformForClient? jid).1 = some client.platform

theorem offers_of_enrols (enrols : g.directory.Enrols clients) (text : String) :
    g.Offers clients text := by
  obtain ⟨answered, -⟩ := pickResource_eq enrols text
  have same := clientLine_perm enrols.cut (bare text)
  constructor
  · have none : (g.pickResource text).1 = none ↔ under clients (bare text) = [] := by
      have noLine : clientLine (bare text) (under clients (bare text)) = [] ↔
          under clients (bare text) = [] := clientLine_eq_nil_iff
      rw [answered, List.getElem?_eq_none_iff, ← noLine, ← List.length_eq_zero_iff]
      refine ⟨fun beyond => ?_, fun empty => by rw [empty]; exact Nat.zero_le _⟩
      by_contra nonempty
      exact absurd (Nat.mod_lt _ (Nat.pos_of_ne_zero nonempty)) (Nat.not_lt.2 beyond)
    rw [none, List.eq_nil_iff_forall_not_mem]
    refine forall_congr' fun jid => ?_
    rw [enrols.cut.mem_under_iff]
    exact ⟨fun absent client known hbare => absent ⟨client, known, hbare⟩,
      fun each ⟨client, known, hbare⟩ => each client known hbare⟩
  · intro jid found
    rw [answered] at found
    have hin := same.mem_iff.1 (List.mem_of_getElem? found)
    obtain ⟨client, known, hbare⟩ := (enrols.cut.mem_under_iff _ jid).1 hin
    have shown := enrols.noteLookup.getClient?_of_some known
    rw [← directory_pickResource g text] at shown
    refine ⟨client, known, ?_, hbare, congrArg (Option.map Client.platform) shown⟩
    rw [(enrols.cut jid client known).2, Client.ofJid]

theorem picks_perm (enrols : g.directory.Enrols clients)
    (serve : ∀ step ∈ window, step.2.ServesClients)
    (few : (g.clientTurn row).toNat + (g.picksUnder row window).length < UInt64.size)
    (kept : g.KeepsClients clients row window)
    (whole : (g.picksUnder row window).length = (under clients row).length) :
    (g.picksUnder row window).Perm ((under clients row).map some) := by
  have same := clientLine_perm enrols.cut row
  by_cases empty : under clients row = []
  · rw [empty, List.length_nil, List.length_eq_zero_iff] at whole
    rw [whole, empty]
    exact .refl _
  · rw [picksUnder_eq enrols serve empty kept few, whole, ← same.length_eq]
    exact (round_perm _ _).trans (same.map some)

/-- After every history of clients a pick answers a registered client exactly when there is one
under its bare JID, and as many picks in a row as there are clients under a bare JID answer each of
them once, whatever happens under other bare JIDs and wherever the cursor stands, as long as it has
not started over. -/
theorem picks_go_round {start : Gateway Backend} (fresh : start.directory.Fresh)
    (unfailing : start.directory.Unfailing) {before : List (Duration × Action)}
    (serve : ∀ step ∈ before, step.2.ServesClients) :
    let g := (start.enrolling ∅ before).1
    let clients := (start.enrolling ∅ before).2
    (∀ text, g.Offers clients text) ∧
      ∀ (row : String) (window : List (Duration × Action)),
        (∀ step ∈ window, step.2.ServesClients) →
        (start.clientTurn row).toNat + (start.picksUnder row (before ++ window)).length <
          UInt64.size →
        g.KeepsClients clients row window →
        (g.picksUnder row window).length = (under clients row).length →
        (g.picksUnder row window).Perm ((under clients row).map some) ∧
          (under clients row).Nodup := by
  have enrols := enrols_enrolling (fresh.enrols unfailing) serve
  refine ⟨offers_of_enrols enrols, fun row window serve' few kept whole => ?_⟩
  refine ⟨picks_perm enrols serve' ?_ kept whole, nodup_under _ row⟩
  have turned := toNat_clientTurn_le (fresh.enrols unfailing) serve row
  rw [picksUnder_append start ∅, List.length_append] at few
  omega

/-- Two clients of one bare JID, one of them without a resource, are picked in turn from a cursor
that stands at 7, between picks under another bare JID. -/
theorem two_picks_of_two_clients :
    let cluster := (Replicated.openOn {} {}).2
    let start : Gateway Backend :=
      { directory := .replicated ⟨cluster, "rayo"⟩
        clientCursors := Std.ExtTreeMap.insert ∅ "a@b" 7 }
    let before : List (Duration × Action) := [(0, .registerClient " a@b/x "),
      (0, .registerClient "a@b"), (5, .registerClient "c@d/z"),
      (0, .registerClient "a@b/y/w"), (0, .registerClient "a@b/"),
      (1, .directory (.removeClient "a@b/x"))]
    let window : List (Duration × Action) := [(0, .pickResource "a@b/x"), (0, .pickResource "c@d"),
      (9, .resources "a@b"), (0, .pickResource "a@b")]
    let g := (start.enrolling ∅ before).1
    let clients := (start.enrolling ∅ before).2
    under clients "a@b" = ["a@b", "a@b/y/w"] ∧ g.Offers clients "a@b/" ∧
      (g.picksUnder "a@b" window).Perm [some "a@b", some "a@b/y/w"] := by
  intro cluster start before window g clients
  have opened : Replicated.openOn {} {} = (.ok ⟨cluster, "rayo"⟩, cluster) := by decide +kernel
  have fresh : start.directory.Fresh := .replicated rfl opened
  have unfailing : start.directory.Unfailing := ⟨by decide +kernel, by decide +kernel⟩
  have serves : ∀ step ∈ before, step.2.ServesClients := by simp [before, Action.ServesClients]
  obtain ⟨offers, round⟩ := picks_go_round fresh unfailing serves
  have two : under clients "a@b" = ["a@b", "a@b/y/w"] := by decide +kernel
  have kept : g.KeepsClients clients "a@b" window := by
    intro front hfront
    rw [← List.mem_inits] at hfront
    revert front
    decide +kernel
  have few : (start.clientTurn "a@b").toNat +
      (start.picksUnder "a@b" (before ++ window)).length < UInt64.size := by decide +kernel
  have whole : (g.picksUnder "a@b" window).length = (under clients "a@b").length := by
    decide +kernel
  have serve : ∀ step ∈ window, step.2.ServesClients := by simp [window, Action.ServesClients]
  have picked := (round "a@b" window serve few kept whole).1
  rw [two] at picked
  exact ⟨two, offers "a@b/", picked⟩

end Gateway

end Switchboard
