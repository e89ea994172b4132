import Mathlib.Data.List.Induction
import Switchboard.Proofs.Jid.Grammar
import Switchboard.Proofs.Server.Authorisation
import Switchboard.Server.Runtime

/-! # Bans

A ban is kept as the text of the JID that a request was parsed to. As the texts of parsed JIDs
are different for different JIDs, a JID is banned exactly when the last request about it that was
accepted was to ban it, however the requests spell it and whatever other requests come between.
-/

namespace Switchboard

open Switchboard.Http

/-! ## Texts of the same JID -/

namespace Jid

/-- The blanks around a text do not matter. -/
theorem parse_eq_of_trim_eq {text text' : String} (same : Text.trim text = Text.trim text') :
    parse text = parse text' := by
  have chars := congrArg String.toList same
  rw [Text.toList_trim, Text.toList_trim] at chars
  rw [parse, parse, chars]

/-- Different JIDs that were parsed have different texts. -/
theorem eq_of_render_eq {text text' : String} {jid jid' : Jid} (parsed : parse text = .ok jid)
    (parsed' : parse text' = .ok jid') (same : jid.render = jid'.render) : jid = jid' := by
  have read := (reads_of_parse parsed).parsed
  rw [same, (reads_of_parse parsed').parsed] at read
  exact (Except.ok.inj read).symm

end Jid

namespace Server

/-! ## Calls about bans -/

def ApiCall.jidText? : ApiCall → Option String
  | .ban text | .unban text | .banned text => some text
  | _ => none

def ApiCall.LeavesBans : ApiCall → Prop
  | .ban _ | .unban _ => False
  | _ => True

section Answers

variable {σ : Type} [Directory σ] {call : ApiCall} {text : String} {jid : Jid}

theorem banned_blacklist (g : Gateway σ) (platform hostname : String) (blacklisted : Bool) :
    (g.blacklist platform hostname blacklisted).2.controls.banned = g.controls.banned := by
  unfold Gateway.blacklist Gateway.look
  dsimp only
  split
  · rfl
  · split
    · rfl
    · split <;> next written => exact congrArg (·.2.controls.banned) written.symm

/-- Only the calls to ban and to lift a ban change what is banned. -/
theorem bans_answer (g : Gateway σ) (leaves : call.LeavesBans) :
    (answer call g).2.controls.banned = g.controls.banned := by
  cases call with
  | ban | unban => exact leaves.elim
  | blacklist platform hostname blacklisted =>
      have kept := banned_blacklist g platform hostname blacklisted
      unfold answer Server.blacklist
      dsimp only
      split <;> next changed => rw [changed] at kept; exact kept
  | banned text =>
      unfold answer Server.banned aboutJid
      dsimp only
      split <;> rfl
  | health | platforms | platformNodes | status => rfl

theorem answer_of_refused {e : JidError} (about : call.jidText? = some text)
    (refused : Jid.parse text = .error e) (g : Gateway σ) :
    answer call g = (.error (.gateway (.invalidJid e)), g) := by
  cases call with
  | ban | unban | banned =>
      obtain rfl := Option.some.inj about
      simp [answer, ban, unban, Server.banned, aboutJid, refused]
  | _ => cases about

theorem answer_ban (parsed : Jid.parse text = .ok jid) (g : Gateway σ) :
    answer (.ban text) g = (.ok (banView jid.render true), g.ban jid.render) := by
  simp [answer, ban, aboutJid, parsed]

theorem answer_unban (parsed : Jid.parse text = .ok jid) (g : Gateway σ) :
    answer (.unban text) g = (.ok (banView jid.render false), g.unban jid.render) := by
  simp [answer, unban, aboutJid, parsed]

theorem answer_banned (parsed : Jid.parse text = .ok jid) (g : Gateway σ) :
    answer (.banned text) g = (.ok (banView jid.render (g.isBanned jid.render)), g) := by
  simp [answer, Server.banned, aboutJid, parsed]

end Answers

/-- The texts of a set in order. -/
theorem toList_sorted (texts : Std.ExtTreeSet String) : texts.toList.Pairwise (· < ·) :=
  texts.ordered_toList.imp fun hlt => compareOfLessAndEq_eq_lt.1 hlt

/-! ## Requests about bans -/

/-- The request is authorised, and the call that is read from it reaches its handler. -/
structure Reaches [Framework] (config : Config) (request : Request) (call : ApiCall) : Prop where
  authorised : authorise config request = .ok ()
  read : ∃ route, Route.ofPath? request.path = some route ∧ readCall route request = .ok call ∧
    request.method = if route.isPosted then .post else .get

/-- The request is an accepted one to ban the JID, or to lift the ban. -/
def Orders [Framework] (config : Config) (request : Request) (jid : Jid) (banned : Bool) : Prop :=
  ∃ text, Reaches config request (if banned then .ban text else .unban text) ∧
    Jid.parse text = .ok jid

/-- Of the accepted requests about the JID the last was to ban it. -/
def LastBanned [Framework] (config : Config) (requests : List Request) (jid : Jid) : Prop :=
  ∃ before request after, requests = before ++ request :: after ∧
    Orders config request jid true ∧
      ∀ later ∈ after, ∀ banned, ¬ Orders config later jid banned

section Requests

variable {config : Config} {request : Request} {requests : List Request} {call : ApiCall}
  {jid : Jid} {banned : Bool}

/-- A request of a history that is extended is the new one or one of those before. -/
theorem split_concat {before after : List Request} {first : Request}
    (split : requests ++ [request] = before ++ first :: after) :
    (first = request ∧ after = []) ∨
      ∃ init, requests = before ++ first :: init ∧ after = init ++ [request] := by
  rcases List.eq_nil_or_concat after with rfl | ⟨init, last, rfl⟩
  · obtain ⟨-, last⟩ := List.append_inj' split rfl
    exact .inl ⟨(List.singleton_inj.1 last).symm, rfl⟩
  · have ends : requests ++ [request] = (before ++ first :: init) ++ [last] := by
      simpa using split
    obtain ⟨earlier, last⟩ := List.append_inj' ends rfl
    obtain rfl := List.singleton_inj.1 last
    exact .inr ⟨init, earlier, by simp⟩

variable [Framework]

theorem Reaches.unique {call' : ApiCall} (reaches : Reaches config request call)
    (reaches' : Reaches config request call') : call = call' := by
  obtain ⟨route, found, read, -⟩ := reaches.read
  obtain ⟨route', found', read', -⟩ := reaches'.read
  obtain rfl := Option.some.inj (found.symm.trans found')
  exact Except.ok.inj (read.symm.trans read')

/-- A request orders one thing about one JID. -/
theorem Orders.unique {jid' : Jid} {banned' : Bool} (orders : Orders config request jid banned)
    (orders' : Orders config request jid' banned') : jid = jid' ∧ banned = banned' := by
  obtain ⟨text, reaches, parsed⟩ := orders
  obtain ⟨text', reaches', parsed'⟩ := orders'
  have same := reaches.unique reaches'
  cases banned <;> cases banned' <;> cases same
  all_goals exact ⟨Except.ok.inj (parsed.symm.trans parsed'), rfl⟩

theorem not_orders_of_leavesBans (reaches : Reaches config request call)
    (leaves : call.LeavesBans) : ¬ Orders config request jid banned := by
  rintro ⟨text, reaches', -⟩
  cases reaches.unique reaches'
  cases banned <;> exact leaves

theorem not_orders_of_refused {text : String} {e : JidError} (reaches : Reaches config request call)
    (about : call.jidText? = some text) (refused : Jid.parse text = .error e) :
    ¬ Orders config request jid banned := by
  rintro ⟨text', reaches', parsed⟩
  cases reaches.unique reaches'
  obtain rfl : text' = text := by cases banned <;> exact Option.some.inj about
  cases refused.symm.trans parsed

theorem LastBanned.exists_parse (last : LastBanned config requests jid) :
    ∃ text, Jid.parse text = .ok jid := by
  obtain ⟨_, _, _, -, ⟨text, -, parsed⟩, -⟩ := last
  exact ⟨text, parsed⟩

theorem not_lastBanned_nil : ¬ LastBanned config [] jid := by
  rintro ⟨before, request, after, empty, -⟩
  simp at empty

theorem lastBanned_concat_iff :
    LastBanned config (requests ++ [request]) jid ↔
      Orders config request jid true ∨
        LastBanned config requests jid ∧ ∀ banned, ¬ Orders config request jid banned := by
  constructor
  · rintro ⟨before, first, after, split, orders, none⟩
    rcases split_concat split with ⟨rfl, rfl⟩ | ⟨init, rfl, rfl⟩
    · exact .inl orders
    · obtain ⟨earlier, last⟩ := List.forall_mem_append.1 none
      exact .inr ⟨⟨before, first, init, rfl, orders, earlier⟩, last request List.mem_cons_self⟩
  · rintro (orders | ⟨⟨before, first, after, rfl, orders, none⟩, other⟩)
    · exact ⟨requests, request, [], rfl, orders, nofun⟩
    · refine ⟨before, first, after ++ [request], by simp, orders, ?_⟩
      exact List.forall_mem_append.2 ⟨none, List.forall_mem_singleton.2 other⟩

/-! ## One request -/

variable {σ : Type} [Directory σ] {server : Server σ}

abbrev bans (server : Server σ) : Std.ExtTreeSet String :=
  server.gateway.controls.banned

theorem serve_of_authorised {route : Route} (read : readCall route request = .ok call)
    (authorised : authorise server.config request = .ok ()) :
    serve route request server =
      (respond (answer call server.gateway).1,
        { server with gateway := (answer call server.gateway).2 }) := by
  rw [serve, read]
  dsimp only
  rw [authorised, ite_self]

theorem handle_of_reaches (reaches : Reaches server.config request call) :
    handle request server =
      ((respond (answer call server.gateway).1).withHeader "access-control-allow-origin" "*",
        { server with gateway := (answer call server.gateway).2 }) := by
  obtain ⟨authorised, route, found, read, method⟩ := reaches
  have served := serve_of_authorised read authorised
  unfold handle onRoute
  cases posted : route.isPosted with
  | false =>
      rw [posted, if_neg Bool.false_ne_true] at method
      simp [found, method, posted, served]
  | true =>
      rw [posted, if_pos rfl] at method
      simp [found, method, posted, served]

theorem config_handle (request : Request) (server : Server σ) :
    (handle request server).2.config = server.config := by
  have served (route : Route) : (serve route request server).2.config = server.config := by
    unfold serve
    split
    · rfl
    · split <;> rfl
  unfold handle onRoute
  dsimp only
  split
  · rfl
  · split
    · rfl
    · split
      · exact served _
      · exact served _
      · exact served _
      · rfl

/-- What changes a ban is posted. -/
theorem leavesBans_of_readCall {route : Route} (read : readCall route request = .ok call)
    (open_ : route.isPosted = false) : call.LeavesBans := by
  cases route with
  | ban | unban | blacklist => cases open_
  | health | platforms | status =>
      cases read
      trivial
  | platformNodes escaped | banned escaped =>
      simp only [readCall] at read
      split at read <;> cases read
      trivial

theorem bans_handle_of_unreached (unreached : ∀ call, ¬ Reaches server.config request call) :
    (handle request server).2.bans = server.bans := by
  by_cases authorised : authorise server.config request = .ok ()
  · have unread {route : Route} (found : Route.ofPath? request.path = some route)
        (method : request.method = if route.isPosted then .post else .get) :
        (serve route request server).2.bans = server.bans := by
      cases read : readCall route request with
      | error fault => rw [serve_of_unread read]
      | ok call => exact absurd ⟨authorised, route, found, read, method⟩ (unreached call)
    unfold handle onRoute
    dsimp only
    split
    · rfl
    · split
      · rfl
      · next route found =>
          split
          · next method open_ => exact unread found (by rw [method, open_]; rfl)
          · next method posted => exact unread found (by rw [method, posted]; rfl)
          · next open_ =>
              -- A question for the head of an answer is served as if it were for the answer.
              cases read : readCall route request with
              | error fault => rw [serve_of_unread read]
              | ok call =>
                  rw [serve_of_authorised read authorised]
                  exact bans_answer server.gateway (leavesBans_of_readCall read open_)
          · rfl
  · rcases (handle_of_unauthorised server authorised).1 with same | looked
    · rw [same]
    · rw [looked]
      rfl

/-- What a request does to what is banned. -/
inductive BanChange (config : Config) (request : Request) (bans : Std.ExtTreeSet String) :
    Std.ExtTreeSet String → Prop
  | banned (jid : Jid) : Orders config request jid true →
    BanChange config request bans (bans.insert jid.render)
  | lifted (jid : Jid) : Orders config request jid false →
    BanChange config request bans (bans.erase jid.render)
  | kept : (∀ jid banned, ¬ Orders config request jid banned) →
    BanChange config request bans bans

theorem banChange_handle (request : Request) (server : Server σ) :
    BanChange server.config request server.bans (handle request server).2.bans := by
  by_cases reached : ∃ call, Reaches server.config request call
  · obtain ⟨call, reaches⟩ := reached
    have after : (handle request server).2.bans =
        (answer call server.gateway).2.controls.banned := by rw [handle_of_reaches reaches]
    rw [after]
    by_cases leaves : call.LeavesBans
    · rw [bans_answer server.gateway leaves]
      exact .kept fun jid banned => not_orders_of_leavesBans reaches leaves
    · cases call with
      | ban text =>
          cases parsed : Jid.parse text with
          | error e =>
              rw [answer_of_refused rfl parsed]
              exact .kept fun jid banned => not_orders_of_refused reaches rfl parsed
          | ok jid =>
              rw [answer_ban parsed]
              exact .banned jid ⟨text, reaches, parsed⟩
      | unban text =>
          cases parsed : Jid.parse text with
          | error e =>
              rw [answer_of_refused rfl parsed]
              exact .kept fun jid banned => not_orders_of_refused reaches rfl parsed
          | ok jid =>
              rw [answer_unban parsed]
              exact .lifted jid ⟨text, reaches, parsed⟩
      | _ => exact absurd trivial leaves
  · rw [bans_handle_of_unreached fun call reaches => reached ⟨call, reaches⟩]
    exact .kept fun jid banned ⟨text, reaches, _⟩ => reached ⟨_, reaches⟩

/-! ## Histories -/

def afterRequests (server : Server σ) (requests : List Request) : Server σ :=
  requests.foldl (fun server request => (handle request server).2) server

theorem afterRequests_concat (server : Server σ) (requests : List Request) (request : Request) :
    server.afterRequests (requests ++ [request]) =
      (handle request (server.afterRequests requests)).2 := by
  rw [afterRequests, List.foldl_append]
  rfl

theorem config_afterRequests (server : Server σ) (requests : List Request) :
    (server.afterRequests requests).config = server.config := by
  induction requests using List.reverseRecOn with
  | nil => rfl
  | append_singleton init request ih => rw [afterRequests_concat, config_handle, ih]

def Tracks (config : Config) (requests : List Request) (bans : Std.ExtTreeSet String) : Prop :=
  ∀ text, text ∈ bans ↔ ∃ jid : Jid, jid.render = text ∧ LastBanned config requests jid

theorem Tracks.change {bans bans' : Std.ExtTreeSet String} (tracks : Tracks config requests bans)
    (change : BanChange config request bans bans') :
    Tracks config (requests ++ [request]) bans' := by
  intro text
  simp only [lastBanned_concat_iff]
  cases change with
  | banned jid orders =>
      rw [Std.ExtTreeSet.mem_insert, Std.compare_eq_iff_eq, tracks]
      constructor
      · rintro (rfl | ⟨other, rfl, last⟩)
        · exact ⟨jid, rfl, .inl orders⟩
        · by_cases own : other = jid
          · exact ⟨other, rfl, .inl (own ▸ orders)⟩
          · exact ⟨other, rfl, .inr ⟨last, fun banned same => own (same.unique orders).1⟩⟩
      · rintro ⟨other, rfl, same | ⟨last, -⟩⟩
        · exact .inl (congrArg Jid.render (orders.unique same).1)
        · exact .inr ⟨other, rfl, last⟩
  | lifted jid orders =>
      rw [Std.ExtTreeSet.mem_erase, Ne, Std.compare_eq_iff_eq, tracks]
      constructor
      · rintro ⟨other, found, rfl, last⟩
        refine ⟨found, rfl, .inr ⟨last, fun banned same => other ?_⟩⟩
        exact congrArg Jid.render (orders.unique same).1
      · rintro ⟨found, rfl, same | ⟨last, silent⟩⟩
        · cases (orders.unique same).2
        · refine ⟨fun same => silent false ?_, found, rfl, last⟩
          obtain ⟨text, -, parsed⟩ := id orders
          obtain ⟨text', parsed'⟩ := last.exists_parse
          exact Jid.eq_of_render_eq parsed parsed' same ▸ orders
  | kept silent =>
      rw [tracks]
      refine exists_congr fun jid => and_congr_right fun _ => ?_
      simp [silent]

/-- A request about one JID leaves all others as they are. -/
theorem BanChange.mem_iff_of_ne {bans bans' : Std.ExtTreeSet String}
    (change : BanChange config request bans bans') (orders : Orders config request jid banned)
    {text : String} (other : text ≠ jid.render) : text ∈ bans' ↔ text ∈ bans := by
  cases change with
  | banned jid' orders' =>
      obtain ⟨rfl, -⟩ := orders.unique orders'
      rw [Std.ExtTreeSet.mem_insert, Std.compare_eq_iff_eq]
      exact or_iff_right other.symm
  | lifted jid' orders' =>
      obtain ⟨rfl, -⟩ := orders.unique orders'
      rw [Std.ExtTreeSet.mem_erase, Ne, Std.compare_eq_iff_eq]
      exact and_iff_right other.symm
  | kept => rfl

theorem tracks_afterRequests (config : Config) (directory : σ) (requests : List Request) :
    Tracks config requests ((start config directory).afterRequests requests).bans := by
  induction requests using List.reverseRecOn with
  | nil =>
      intro text
      have none : text ∉ (∅ : Std.ExtTreeSet String) := Std.ExtTreeSet.not_mem_empty
      exact iff_of_false none fun ⟨jid, _, last⟩ => not_lastBanned_nil last
  | append_singleton init request ih =>
      have change := banChange_handle request ((start config directory).afterRequests init)
      rw [config_afterRequests] at change
      rw [afterRequests_concat]
      exact ih.change change

/-! ## What the requests show -/

def Tells (response : Response) (jid : Jid) (banned : Bool) : Prop :=
  response.status = 200 ∧ response.body = .json (banView jid.render banned)

def ListsBanned (response : Response) (jids : List String) : Prop :=
  response.status = 200 ∧
    ∃ json, response.body = .json json ∧ json.field? "banned_jids" = some (.texts jids)

theorem refused_of_reaches {text : String} {e : JidError}
    (reaches : Reaches server.config request call) (about : call.jidText? = some text)
    (refused : Jid.parse text = .error e) :
    (handle request server).1.status = 400 ∧ (handle request server).2 = server := by
  rw [handle_of_reaches reaches, answer_of_refused about refused]
  exact ⟨rfl, rfl⟩

theorem tells_of_ban {text : String} (reaches : Reaches server.config request (.ban text))
    (parsed : Jid.parse text = .ok jid) : Tells (handle request server).1 jid true := by
  rw [handle_of_reaches reaches, answer_ban parsed]
  exact ⟨rfl, rfl⟩

theorem tells_of_unban {text : String} (reaches : Reaches server.config request (.unban text))
    (parsed : Jid.parse text = .ok jid) : Tells (handle request server).1 jid false := by
  rw [handle_of_reaches reaches, answer_unban parsed]
  exact ⟨rfl, rfl⟩

theorem tells_of_banned {text : String} (reaches : Reaches server.config request (.banned text))
    (parsed : Jid.parse text = .ok jid) :
    Tells (handle request server).1 jid (server.bans.contains jid.render) := by
  rw [handle_of_reaches reaches, answer_banned parsed]
  exact ⟨rfl, rfl⟩

theorem accepted_of_reaches {text : String} (reaches : Reaches server.config request call)
    (about : call.jidText? = some text) (parsed : Jid.parse text = .ok jid) :
    (handle request server).1.status = 200 := by
  cases call with
  | ban own =>
      obtain rfl := Option.some.inj about
      exact (tells_of_ban reaches parsed).1
  | unban own =>
      obtain rfl := Option.some.inj about
      exact (tells_of_unban reaches parsed).1
  | banned own =>
      obtain rfl := Option.some.inj about
      exact (tells_of_banned reaches parsed).1
  | _ => cases about

theorem tells_of_orders (orders : Orders server.config request jid banned) :
    Tells (handle request server).1 jid banned := by
  obtain ⟨text, reaches, parsed⟩ := orders
  cases banned with
  | true => exact tells_of_ban reaches parsed
  | false => exact tells_of_unban reaches parsed

theorem listsBanned_of_status (reaches : Reaches server.config request .status) :
    ListsBanned (handle request server).1 server.bans.toList := by
  rw [handle_of_reaches reaches]
  exact ⟨rfl, _, rfl, rfl⟩

/-- What requests show of the bans after a history. -/
structure ShowsBans (config : Config) (requests : List Request) (server : Server σ) : Prop where
  /-- A request about a ban is refused exactly when its text is no JID. -/
  refused : ∀ request call text, Reaches config request call → call.jidText? = some text →
    ((handle request server).1.status = 400 ∧ (handle request server).2 = server ↔
      ∀ jid, Jid.parse text ≠ .ok jid)
  ordered : ∀ request jid banned, Orders config request jid banned →
    Tells (handle request server).1 jid banned
  asked : ∀ request text jid, Reaches config request (.banned text) →
    Jid.parse text = .ok jid →
      ∃ banned, Tells (handle request server).1 jid banned ∧
        (banned = true ↔ LastBanned config requests jid)
  listed : ∀ request, Reaches config request .status →
    ∃ jids, ListsBanned (handle request server).1 jids ∧ jids.Pairwise (· < ·) ∧
      ∀ text, text ∈ jids ↔ ∃ jid : Jid, jid.render = text ∧ LastBanned config requests jid
  /-- What is asked about a JID is answered as it was before a request about another. -/
  independent : ∀ request jid banned, Orders config request jid banned →
    ∀ question text other, Reaches config question (.banned text) →
      Jid.parse text = .ok other → other ≠ jid →
        (handle question (handle request server).2).1 = (handle question server).1

theorem showsBans_of_tracks (tracks : Tracks server.config requests server.bans) :
    ShowsBans server.config requests server := by
  constructor
  case refused =>
    intro request call text reaches about
    cases parsed : Jid.parse text with
    | error e => exact iff_of_true (refused_of_reaches reaches about parsed) nofun
    | ok jid =>
        have accepted := accepted_of_reaches reaches about parsed
        refine iff_of_false (fun refused => ?_) fun none => none jid rfl
        cases accepted.symm.trans refused.1
  case ordered => exact fun request jid banned orders => tells_of_orders orders
  case asked =>
    intro request text jid reaches parsed
    refine ⟨_, tells_of_banned reaches parsed, ?_⟩
    rw [Std.ExtTreeSet.contains_iff_mem, tracks]
    constructor
    · rintro ⟨other, same, last⟩
      obtain ⟨text', parsed'⟩ := last.exists_parse
      exact Jid.eq_of_render_eq parsed' parsed same ▸ last
    · exact fun last => ⟨jid, rfl, last⟩
  case listed =>
    intro request reaches
    refine ⟨_, listsBanned_of_status reaches, toList_sorted _, fun text => ?_⟩
    rw [Std.ExtTreeSet.mem_toList]
    exact tracks text
  case independent =>
    intro request jid banned orders question text other reaches parsed ne
    obtain ⟨text', -, parsed'⟩ := id orders
    have apart : other.render ≠ jid.render := fun same =>
      ne (Jid.eq_of_render_eq parsed parsed' same)
    have same := (banChange_handle request server).mem_iff_of_ne orders apart
    have reaches' : Reaches (handle request server).2.config question (.banned text) :=
      (config_handle request server).symm ▸ reaches
    have answered : (handle request server).2.gateway.isBanned other.render =
        server.gateway.isBanned other.render :=
      Bool.eq_iff_iff.2 (by simpa only [Gateway.isBanned, Std.ExtTreeSet.contains_iff_mem])
    rw [handle_of_reaches reaches', handle_of_reaches reaches, answer_banned parsed,
      answer_banned parsed, answered]

/-- After every history of requests to a new server, the bans are those of the JIDs whose last
accepted request was to ban them. Blanks around the text of a JID do not matter, and JIDs that
differ, if only in that one has a resource, do not affect each other. -/
theorem bans_follow_parsed_jids (config : Config) (directory : σ) (requests : List Request) :
    ShowsBans config requests ((start config directory).afterRequests requests) ∧
      ∀ text text', Text.trim text = Text.trim text' → Jid.parse text = Jid.parse text' := by
  have same : ((start config directory).afterRequests requests).config = config :=
    config_afterRequests _ _
  have tracks := tracks_afterRequests config directory requests
  generalize (start config directory).afterRequests requests = server at same tracks ⊢
  subst same
  exact ⟨showsBans_of_tracks tracks, fun text text' => Jid.parse_eq_of_trim_eq⟩

end Requests

/-- A ban with a blank in front of the JID is found under the JID, and not under the bare JID. -/
theorem ban_of_spaced_jid :
    let config : Config := { adminToken := some "t" }
    let headers := [("authorization", "t"), ("content-type", "application/json")]
    let ban : Request := ⟨.post, "/admin/ban", headers, "[\" a@b/c\"]"⟩
    let full : Request := ⟨.get, "/admin/banned/a@b%2Fc", headers, ""⟩
    let bare : Request := ⟨.get, "/admin/banned/a@b", headers, ""⟩
    let server := (start config ({} : Memory)).afterRequests [ban]
    Tells (handle full server).1 ⟨some "a", "b", some "c"⟩ true ∧
      Tells (handle bare server).1 ⟨some "a", "b", none⟩ false := by
  intro config headers ban full bare server
  have reachesBan : Reaches config ban (.ban " a@b/c") :=
    ⟨by decide +kernel, .ban, by decide +kernel, by decide +kernel, rfl⟩
  have reachesFull : Reaches config full (.banned "a@b/c") :=
    ⟨by decide +kernel, .banned "a@b%2Fc", by decide +kernel, by decide +kernel, rfl⟩
  have reachesBare : Reaches config bare (.banned "a@b") :=
    ⟨by decide +kernel, .banned "a@b", by decide +kernel, by decide +kernel, rfl⟩
  have orders : Orders config ban ⟨some "a", "b", some "c"⟩ true :=
    ⟨" a@b/c", reachesBan, by decide +kernel⟩
  obtain ⟨shows, -⟩ := bans_follow_parsed_jids config ({} : Memory) [ban]
  constructor
  · obtain ⟨banned, tells, iff⟩ :=
      shows.asked full "a@b/c" ⟨some "a", "b", some "c"⟩ reachesFull (by decide +kernel)
    rwa [iff.2 ⟨[], ban, [], rfl, orders, nofun⟩] at tells
  · obtain ⟨banned, tells, iff⟩ :=
      shows.asked bare "a@b" ⟨some "a", "b", none⟩ reachesBare (by decide +kernel)
    cases banned with
    | false => exact tells
    | true =>
        obtain ⟨before, request, after, split, bans, -⟩ := iff.1 rfl
        have first : [] ++ [ban] = before ++ request :: after := split
        obtain ⟨rfl, -⟩ | ⟨init, none, -⟩ := split_concat first
        · cases (orders.unique bans).1
        · simp at none

end Server

end Switchboard
