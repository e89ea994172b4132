import Switchboard.Directory.Backend
import Switchboard.Proofs.Directory.Refusal
import Switchboard.Server.Api

/-! # The operator's token

A request is authorised when the value of its header is the token, with or without the word
in front. A request that is not authorised changes nothing, whatever it asks for, and learns
nothing from the operator's routes.
-/

namespace Switchboard

open Switchboard.Http

/-! ## Tokens -/

/-- A token that is configured is not empty. -/
theorem Config.adminToken_ne_empty {lookup : Config.Lookup} {token : String}
    (configured : (Config.ofLookup lookup).adminToken = some token) : token ≠ "" := by
  have nonempty := (Option.filter_eq_some_iff.1 configured).2
  rintro rfl
  cases nonempty

namespace Server

/-- What is left of a value is the token when the value is the token behind the word, or the token
itself and that does not begin with the word. -/
theorem stripBearer_eq_iff (value token : List Char) :
    stripBearer value = token ↔
      value = "Bearer ".toList ++ token ∨ value = token ∧ ¬ "Bearer ".toList <+: token := by
  have strip (rest : List Char) : stripBearer ("Bearer ".toList ++ rest) = rest := by
    have front : "Bearer ".toList.isPrefixOf ("Bearer ".toList ++ rest) := by simp
    rw [stripBearer, if_pos front]
    rfl
  by_cases front : "Bearer ".toList <+: value
  · obtain ⟨rest, rfl⟩ := front
    rw [strip, List.append_cancel_left_eq]
    constructor
    · exact Or.inl
    · rintro (same | ⟨rfl, bare⟩)
      · exact same
      · exact absurd ⟨rest, rfl⟩ bare
  · rw [stripBearer, if_neg (mt List.isPrefixOf_iff_prefix.1 front)]
    constructor
    · rintro rfl
      exact .inr ⟨rfl, front⟩
    · rintro (rfl | ⟨same, -⟩)
      · exact absurd ⟨token, rfl⟩ front
      · exact same

/-- The value of the header is readable, and it gives the token. -/
def Gives [Framework] (token : String) (request : Request) : Prop :=
  ∃ value, request.header? "authorization" = some value ∧ value.toList.all isReadable ∧
    (value = "Bearer " ++ token ∨ value = token ∧ ¬ "Bearer ".toList <+: token.toList)

/-- A header that is missing or cannot be read gives no token. -/
theorem gives_iff [Framework] {token : String} (nonempty : token ≠ "") (request : Request) :
    stripBearer ((request.readableHeader? "authorization").getD "").toList = token.toList ↔
      Gives token request := by
  have text (value : String) : stripBearer value.toList = token.toList ↔
      value = "Bearer " ++ token ∨ value = token ∧ ¬ "Bearer ".toList <+: token.toList := by
    rw [stripBearer_eq_iff, ← String.toList_append, String.toList_inj, String.toList_inj]
  cases readable : request.readableHeader? "authorization" with
  | none =>
      constructor
      · intro same
        exact absurd (String.toList_inj.1 same).symm nonempty
      · rintro ⟨value, given, clear, -⟩
        rw [Request.readableHeader?, given, Option.filter_some, if_pos clear] at readable
        cases readable
  | some value =>
      obtain ⟨given, clear⟩ := Option.filter_eq_some_iff.1 readable
      rw [Option.getD_some, text]
      constructor
      · intro same
        exact ⟨value, given, clear, same⟩
      · rintro ⟨other, given', -, same⟩
        obtain rfl := Option.some.inj (given.symm.trans given')
        exact same

theorem authorise_eq_ok_iff [Framework] (lookup : Config.Lookup) (request : Request) :
    authorise (Config.ofLookup lookup) request = .ok () ↔
      ∃ token, (Config.ofLookup lookup).adminToken = some token ∧ Gives token request := by
  unfold authorise
  cases configured : (Config.ofLookup lookup).adminToken with
  | none => simp
  | some token =>
      have given := gives_iff (Config.adminToken_ne_empty configured) request
      dsimp only
      split
      · next same => simpa using given.1 same
      · next other => simpa using mt given.2 other

/-! ## Routes of the operator -/

end Server

def Http.Route.isGuarded : Route → Bool
  | health | platforms | platformNodes _ => false
  | _ => true

/-- The text of a path is put together from its segments. -/
theorem toList_eq_of_segments {path : String} {segments : List String}
    (cut : (path.toList.splitOn '/').map String.ofList = segments) :
    path.toList = ['/'].intercalate (segments.map String.toList) := by
  have pieces : segments.map String.toList = path.toList.splitOn '/' := by
    rw [← cut, List.map_map]
    simp [Function.comp_def]
  rw [pieces, List.intercalate_splitOn]

/-- Every path below `/admin` that exists is guarded. -/
theorem Http.Route.isGuarded_of_ofPath? {path : String} {route : Route}
    (found : Route.ofPath? path = some route) (below : "/admin".toList <+: path.toList) :
    route.isGuarded := by
  unfold ofPath? at found
  split at found
  · next cut =>
      rw [toList_eq_of_segments cut] at below
      exact absurd below (by decide)
  · next cut =>
      rw [toList_eq_of_segments cut] at below
      exact absurd below (by decide)
  · next platform cut =>
      rw [toList_eq_of_segments cut] at below
      simp [List.intercalate] at below
  · cases found
    rfl
  · cases found
    rfl
  · cases found
    rfl
  · cases found
    rfl
  · split at found
    · cases found
    · cases found
      rfl
  · cases found

namespace Server

theorem isGuarded_of_readCall [Framework] {route : Route} {request : Request} {call : ApiCall}
    (read : readCall route request = .ok call) : call.isGuarded = route.isGuarded := by
  cases route with
  | health | platforms | status =>
      cases read
      rfl
  | platformNodes escaped | banned escaped =>
      simp only [readCall] at read
      split at read <;> cases read
      rfl
  | ban | unban =>
      obtain ⟨text, -, rfl⟩ := ok_of_map read
      rfl
  | blacklist =>
      simp only [readCall] at read
      cases hrecord : Framework.record request blacklistFields with
      | error fault =>
          rw [hrecord] at read
          cases read
      | ok values =>
          rw [hrecord] at read
          simp only [bind, Except.bind] at read
          split at read
          · cases read
            rfl
          · cases read

/-! ## Requests without authorisation -/

section Refused

variable {σ : Type} [Directory σ] {server : Server σ} {request : Request}

/-- Nothing of the server is changed; its directory may have been looked into. -/
def OnlyLooks (server after : Server σ) : Prop :=
  after = server ∨ after = { server with gateway := server.gateway.noteLookup }

/-- Calls that are open to everyone change nothing. -/
theorem answer_of_unguarded {call : ApiCall} (everyone : call.isGuarded = false) (g : Gateway σ) :
    (answer call g).2 = g ∨ (answer call g).2 = g.noteLookup := by
  cases call with
  | health => exact .inl rfl
  | platforms | platformNodes => exact .inr rfl
  | status | blacklist | ban | unban | banned => cases everyone

theorem status_fault_ne_ok (fault : RequestFault) : fault.status ≠ 200 := by
  cases fault <;> decide

theorem status_refusal_ne_ok (e : ServerError) : e.status ≠ 200 := by
  unfold ServerError.status
  split <;> decide

variable [Framework]

section Serve

variable {route : Route} {call : ApiCall}

theorem serve_of_unread {fault : RequestFault} (unread : readCall route request = .error fault)
    (server : Server σ) :
    serve route request server =
      ({ status := fault.status, body := .explanation }, server) := by
  rw [serve, unread]

theorem serve_of_unguarded (read : readCall route request = .ok call)
    (everyone : call.isGuarded = false) (server : Server σ) :
    serve route request server =
      (respond (answer call server.gateway).1,
        { server with gateway := (answer call server.gateway).2 }) := by
  rw [serve, read]
  simp only [everyone, Bool.false_eq_true, if_false]

theorem serve_of_refused (read : readCall route request = .ok call)
    (guarded : call.isGuarded = true) {e : ServerError}
    (checked : authorise server.config request = .error e) :
    serve route request server = (respond (.error e), server) := by
  rw [serve, read]
  simp only [guarded, if_true, checked]

end Serve

/-- What a route does for a request without the token. -/
theorem serve_of_unauthorised (refused : authorise server.config request ≠ .ok ())
    (route : Route) :
    OnlyLooks server (serve route request server).2 ∧
      (route.isGuarded → (serve route request server).1.status ≠ 200) := by
  cases read : readCall route request with
  | error fault =>
      rw [serve_of_unread read]
      exact ⟨.inl rfl, fun _ => status_fault_ne_ok fault⟩
  | ok call =>
      rw [← isGuarded_of_readCall read]
      cases guarded : call.isGuarded with
      | false =>
          rw [serve_of_unguarded read guarded]
          refine ⟨?_, fun h => nomatch h⟩
          rcases answer_of_unguarded guarded server.gateway with same | looked
          · exact .inl (congrArg (Server.mk server.config) same)
          · exact .inr (congrArg (Server.mk server.config) looked)
      | true =>
          cases checked : authorise server.config request with
          | ok done => exact absurd checked refused
          | error e =>
              rw [serve_of_refused read guarded checked]
              exact ⟨.inl rfl, fun _ => status_refusal_ne_ok e⟩

theorem onRoute_of_unauthorised (refused : authorise server.config request ≠ .ok ())
    (route : Route) :
    OnlyLooks server (onRoute route request server).2 ∧
      (route.isGuarded → (onRoute route request server).1.status ≠ 200) := by
  have served := serve_of_unauthorised refused route
  unfold onRoute
  split
  · exact served
  · exact served
  · exact served
  · exact ⟨.inl rfl, fun _ => show 405 ≠ 200 by decide⟩

theorem handle_of_unauthorised (server : Server σ)
    (refused : authorise server.config request ≠ .ok ()) :
    OnlyLooks server (handle request server).2 ∧
      (request.method ≠ .options → "/admin".toList <+: request.path.toList →
        (handle request server).1.status ≠ 200) := by
  unfold handle
  dsimp only
  split
  · next asked => exact ⟨.inl rfl, fun other => absurd asked other⟩
  · split
    · exact ⟨.inl rfl, fun _ _ => show 404 ≠ 200 by decide⟩
    · next route found =>
        obtain ⟨looks, guarded⟩ := onRoute_of_unauthorised refused route
        exact ⟨looks, fun _ below => guarded (Route.isGuarded_of_ofPath? found below)⟩

end Refused

/-- A request is authorised exactly when a token is configured and the request gives it. One that is
not authorised leaves the server as it is, and no path below `/admin` answers it with success. -/
theorem only_the_token_gives_access [Framework] (lookup : Config.Lookup) (g : Gateway Backend)
    (request : Request) :
    let config := Config.ofLookup lookup
    let reply := handle request ⟨config, g⟩
    (authorise config request = .ok () ↔
      ∃ token, config.adminToken = some token ∧ Gives token request) ∧
    (request.header? "authorization" = none → authorise config request ≠ .ok ()) ∧
    (authorise config request ≠ .ok () →
      reply.2.config = config ∧
      g.directory.SameData reply.2.gateway.directory ∧
      reply.2.gateway = { g with directory := reply.2.gateway.directory } ∧
      (request.method ≠ .options → "/admin".toList <+: request.path.toList →
        reply.1.status ≠ 200)) := by
  intro config reply
  have authorised := authorise_eq_ok_iff lookup request
  refine ⟨authorised, fun missing given => ?_, fun refused => ?_⟩
  · obtain ⟨token, -, value, present, -⟩ := authorised.1 given
    rw [missing] at present
    cases present
  · obtain ⟨looks, denied⟩ := handle_of_unauthorised ⟨config, g⟩ refused
    have kept : reply.2.config = config ∧ g.directory.SameData reply.2.gateway.directory ∧
        reply.2.gateway = { g with directory := reply.2.gateway.directory } := by
      rcases (looks : OnlyLooks ⟨config, g⟩ reply.2) with same | looked
      · rw [same]
        exact ⟨rfl, Backend.sameData_refl _, rfl⟩
      · rw [looked]
        exact ⟨rfl, Backend.sameData_noteLookup _, rfl⟩
    exact ⟨kept.1, kept.2.1, kept.2.2, denied⟩

end Server

end Switchboard
