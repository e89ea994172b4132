import Switchboard.Columns.Runtime
import Switchboard.Proofs.Gateway.Mirror
import Switchboard.Server.Api
import Switchboard.Server.Runtime

/-! # A server on either directory

The listings of the HTTP interface are sorted before they are sent and the numbers in them
are lengths, so that a server on a directory in memory and one on a cluster give the same
responses as long as their directories hold the same records. They start without records,
and every admissible step keeps the records the same.
-/

namespace Switchboard

open Switchboard.Columns Switchboard.Http
open Gateway (Agree)

namespace Server

variable {g g' : Gateway Backend}

/-! ## What the routes answer -/

theorem agree_platforms (same : g.SameRecords g') : Agree (platforms g) (platforms g') := by
  refine ⟨?_, same.noteLookup⟩
  exact congrArg (List.mergeSort · _) same.directory.platforms

theorem agree_platformNodes (same : g.SameRecords g') (platform : String) :
    Agree (platformNodes platform g) (platformNodes platform g') := by
  obtain ⟨listed, distinct⟩ := same.directory.nodesForPlatform platform
  exact ⟨Selection.mergeSort_hostname_eq_of_perm listed distinct, same.noteLookup⟩

theorem agree_status (same : g.SameRecords g') : Agree (status g) (status g') := by
  have names := (agree_platforms same).1
  have calls := same.noteLookup.directory.calls
  have clients := same.noteLookup.noteLookup.directory.clients
  obtain ⟨records⟩ := same
  refine ⟨?_, ⟨records.noteLookup.noteLookup.noteLookup⟩⟩
  unfold status
  dsimp only [platforms, Gateway.look] at names ⊢
  rw [names, calls, clients]
  rfl

theorem agree_blacklist (same : g.SameRecords g') (platform hostname : String)
    (blacklisted : Bool) :
    Agree (blacklist platform hostname blacklisted g)
      (blacklist platform hostname blacklisted g') := by
  obtain ⟨result, g₁, g₁', h, h', after⟩ :=
    (same.blacklist platform hostname blacklisted).exists_eq
  unfold blacklist
  rw [h, h']
  rcases result with e | (_ | _)
  · exact ⟨rfl, after⟩
  · exact ⟨rfl, after⟩
  · exact ⟨rfl, after⟩

theorem agree_aboutJid (same : g.SameRecords g') (text : String)
    {reply reply' : String → Json × Gateway Backend}
    (agree : ∀ jid, Agree (reply jid) (reply' jid)) :
    Agree (aboutJid text g reply) (aboutJid text g' reply') := by
  unfold aboutJid
  cases Jid.parse text with
  | error e => exact ⟨rfl, same⟩
  | ok jid => exact ⟨congrArg Except.ok (agree jid.render).1, (agree jid.render).2⟩

theorem agree_answer (same : g.SameRecords g') (call : ApiCall) :
    Agree (answer call g) (answer call g') := by
  cases call with
  | health => exact ⟨rfl, same⟩
  | platforms =>
      obtain ⟨names, after⟩ := agree_platforms same
      exact ⟨congrArg (fun names => Except.ok (Json.texts names)) names, after⟩
  | platformNodes platform =>
      obtain ⟨nodes, after⟩ := agree_platformNodes same platform
      refine ⟨?_, after⟩
      obtain ⟨-⟩ := same
      unfold answer
      dsimp only
      rw [nodes]
      rfl
  | status =>
      obtain ⟨json, after⟩ := agree_status same
      exact ⟨congrArg Except.ok json, after⟩
  | blacklist platform hostname blacklisted =>
      exact agree_blacklist same platform hostname blacklisted
  | ban text | unban text | banned text =>
      refine agree_aboutJid same text fun jid => ?_
      obtain ⟨records⟩ := same
      exact ⟨rfl, ⟨records⟩⟩

/-! ## Requests -/

/-- The directories of the servers hold the same records, and everything else is equal. -/
inductive SameRecords (server : Server Backend) : Server Backend → Prop
  | intro {g : Gateway Backend} :
      server.gateway.SameRecords g → SameRecords server { server with gateway := g }

def RespondAlike (left right : Response × Server Backend) : Prop :=
  left.1 = right.1 ∧ left.2.SameRecords right.2

variable {server server' : Server Backend}

theorem SameRecords.refused (same : server.SameRecords server') (response : Response) :
    RespondAlike (response, server) (response, server') :=
  ⟨rfl, same⟩

theorem SameRecords.serve [Framework] (same : server.SameRecords server') (route : Route)
    (request : Request) :
    RespondAlike (serve route request server) (serve route request server') := by
  obtain ⟨gateways⟩ := id same
  unfold Server.serve
  cases readCall route request with
  | error fault => exact same.refused _
  | ok call =>
      dsimp only
      split
      · exact same.refused _
      · obtain ⟨reply, after⟩ := agree_answer gateways call
        exact ⟨congrArg respond reply, ⟨after⟩⟩

theorem SameRecords.onRoute [Framework] (same : server.SameRecords server') (route : Route)
    (request : Request) :
    RespondAlike (onRoute route request server) (onRoute route request server') := by
  obtain ⟨response, after⟩ := same.serve route request
  unfold Server.onRoute
  split
  · exact ⟨response, after⟩
  · exact ⟨response, after⟩
  · refine ⟨?_, after⟩
    exact congrArg (fun response : Response => { response with body := .empty }) response
  · exact same.refused _

/-- Every request has the same response from both servers. -/
theorem SameRecords.handle [Framework] (same : server.SameRecords server') (request : Request) :
    RespondAlike (handle request server) (handle request server') := by
  unfold Server.handle
  dsimp only
  split
  · exact same.refused _
  · split
    · exact same.refused _
    · next route _ =>
        obtain ⟨response, after⟩ := same.onRoute route request
        exact ⟨congrArg (·.withHeader "access-control-allow-origin" "*") response, after⟩

end Server

/-! ## Every history -/

inductive Step : Type 1
  | turn (entry : Turn)
  | request (request : Request)

def Step.Admissible : Step → Prop
  | .turn entry => entry.Admissible
  | .request _ => True

namespace Server

/-- Both servers answer every turn and every request of a history alike. -/
def InStep [Framework] (left right : Server Backend) : List Step → Prop
  | [] => True
  | .turn entry :: rest =>
    entry.AnsweredAlike left.gateway right.gateway ∧
      InStep { left with gateway := left.gateway.afterTurn entry }
        { right with gateway := right.gateway.afterTurn entry } rest
  | .request request :: rest =>
    (handle request left).1 = (handle request right).1 ∧
      InStep (handle request left).2 (handle request right).2 rest

variable {server server' : Server Backend}

theorem SameRecords.inStep [Framework] (same : server.SameRecords server') {steps : List Step}
    (admissible : ∀ step ∈ steps, step.Admissible) : InStep server server' steps := by
  induction steps generalizing server server' with
  | nil => trivial
  | cons step rest ih =>
      have later := fun s hs => admissible s (List.mem_cons_of_mem step hs)
      cases step with
      | turn entry =>
          have permitted : entry.Admissible := admissible (.turn entry) List.mem_cons_self
          obtain ⟨gateways⟩ := same
          obtain ⟨alike, after⟩ := gateways.turn permitted
          exact ⟨alike, ih ⟨after⟩ later⟩
      | request request =>
          obtain ⟨response, after⟩ := same.handle request
          exact ⟨response, ih after later⟩

/-- A server on a directory in memory and one on a cluster without keyspaces, with the same
settings, are in step through every history of admissible turns and of requests. -/
theorem servers_in_step [Timer] [Framework] {settings : StoreSettings} {cluster : Cluster}
    (empty : cluster.keyspaces = ∅)
    (reached : Cluster.connect settings.host settings.port = .ok ())
    (reads : cluster.failReads = false) (writes : cluster.failWrites = false) :
    ∃ directory, Replicated.openOn settings cluster = (.ok directory, directory.cluster) ∧
      ∀ (config : Config) (steps : List Step), (∀ step ∈ steps, step.Admissible) →
        InStep (start config (.memory {})) (start config (.replicated directory)) steps := by
  obtain ⟨directory, keyspace, opened, ready, blank, same⟩ :=
    Replicated.openOn_of_connect empty reached
  have live : directory.Live :=
    ⟨⟨keyspace, ready⟩, same.failReads.trans reads, same.failWrites.trans writes⟩
  refine ⟨directory, opened, fun config steps admissible => ?_⟩
  have started : (start config (.memory {})).SameRecords (start config (.replicated directory)) :=
    ⟨⟨⟨mirrors_empty live blank⟩⟩⟩
  exact started.inStep admissible

/-- Two nodes are registered, the later one first in order of hostname; a dispatch fails on both,
and then the nodes of the platform are asked for. -/
theorem servers_in_step_through_failed_dispatch :
    let node (hostname ip : String) : Node := ⟨hostname, ip, .ofList ["pstn"], 1, 2, 0, false⟩
    let steps : List Step := [
      .turn (.act (.registerNode (node "b" "10.0.0.2"))),
      .turn (.act (.registerNode (node "a" "10.0.0.1"))),
      .turn (.event (.advance 1000)),
      .turn (.act (.dispatch "pstn" 1 fun _ => { failure := some "busy" })),
      .request { method := .get, target := "/platforms/pstn/nodes" }]
    ∃ directory, Replicated.openOn {} {} = (.ok directory, directory.cluster) ∧
      InStep (start {} (.memory {})) (start {} (.replicated directory)) steps := by
  intro node steps
  have plain (hostname ip : String) : (node hostname ip).HasPlainNames := by
    intro platform hin
    obtain rfl : "pstn" = platform := by simpa [node] using hin
    exact ⟨by decide, by decide⟩
  have started := servers_in_step (show ({} : Cluster).keyspaces = ∅ from rfl)
    (show Cluster.connect ({} : StoreSettings).host ({} : StoreSettings).port = .ok () from rfl)
    rfl rfl
  obtain ⟨directory, opened, inStep⟩ := started
  refine ⟨directory, opened, inStep {} steps fun step hstep => ?_⟩
  simp only [steps, List.mem_cons, List.not_mem_nil, or_false] at hstep
  rcases hstep with rfl | rfl | rfl | rfl | rfl
  · exact plain "b" "10.0.0.2"
  · exact plain "a" "10.0.0.1"
  · trivial
  · trivial
  · trivial

end Server

end Switchboard
