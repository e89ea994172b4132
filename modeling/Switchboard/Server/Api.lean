import Switchboard.Gateway.Action
import Switchboard.Json.Record
import Switchboard.Server.Config
import Switchboard.Server.Error
import Switchboard.Server.Framework

/-! # The HTTP interface

Health and listings for everyone, and the operator's calls behind a token.  Path
and body are read before the token is checked.  Nothing in a server changes
unless a posted call is authorised and accepted.
-/

namespace Switchboard

open Switchboard.Http

structure Server (σ : Type) where
  config : Config
  gateway : Gateway σ

namespace Server

def version : String := "0.1.0"

def start {σ : Type} (config : Config) (directory : σ) : Server σ where
  config
  gateway :=
    { directory
      defaultPlatform := config.defaultPlatform
      maxConsecutiveErrors := config.maxConsecutiveErrors
      controls := { maxDialRetries := config.maxDialRetries } }

/-! ## Authorisation -/

def stripBearer (value : List Char) : List Char :=
  if "Bearer ".toList.isPrefixOf value then value.drop 7 else value

/-- Checks the operator's token.  A header that cannot be read counts as empty. -/
def authorise [Framework] (config : Config) (request : Request) : Except ServerError Unit :=
  match config.adminToken with
  | none => .error (.forbidden "Admin API is disabled (no ADMIN_TOKEN configured)")
  | some token =>
    let given := (request.readableHeader? "authorization").getD ""
    if stripBearer given.toList = token.toList then .ok ()
    else .error (.forbidden "Invalid admin token")

/-! ## What the routes answer -/

variable {σ : Type} [Directory σ]

abbrev Reply (σ : Type) : Type := Except ServerError Json × Gateway σ

def health : Json :=
  .obj [("status", .str "ok"), ("name", .str Defaults.serverName), ("version", .str version)]

def platforms (g : Gateway σ) : List String × Gateway σ :=
  let (platforms, g) := g.look Directory.platforms
  (platforms.mergeSort, g)

def nodeView (maxErrors : UInt32) (node : Node) : Json :=
  .obj (node.toFields ++ [("available", .bool (node.isAvailable maxErrors))])

def platformNodes (platform : String) (g : Gateway σ) : List Node × Gateway σ :=
  let (nodes, g) := g.look (Directory.nodesForPlatform platform)
  (nodes.mergeSort fun a b => a.hostname ≤ b.hostname, g)

def status (g : Gateway σ) : Json × Gateway σ :=
  let (platforms, g) := platforms g
  let (calls, g) := g.look Directory.calls
  let (clients, g) := g.look Directory.clients
  (.obj [("name", .str Defaults.serverName),
    ("version", .str version),
    ("platforms", .texts platforms),
    ("active_calls", .nat calls.length),
    ("connected_clients", .nat clients.length),
    ("banned_jids", .texts g.bannedJids),
    ("max_dial_retries", .nat g.controls.maxDialRetries.toNat),
    ("max_consecutive_errors", .nat g.maxConsecutiveErrors.toNat),
    ("failed_blacklist_updates", .nat g.controls.failedBlacklistUpdates.toNat)], g)

def blacklist (platform hostname : String) (blacklisted : Bool) (g : Gateway σ) : Reply σ :=
  match g.blacklist platform hostname blacklisted with
  | (.error e, g) => (.error (.gateway e), g)
  | (.ok false, g) => (.error (.notFound s!"Rayo node [{hostname}] on platform [{platform}]"), g)
  | (.ok true, g) =>
    (.ok (.obj [("hostname", .str hostname), ("blacklisted", .bool blacklisted)]), g)

def banView (jid : String) (banned : Bool) : Json :=
  .obj [("jid", .str jid), ("banned", .bool banned)]

/-- Answers a call about the JID that a text writes, in its canonical text. -/
def aboutJid (text : String) (g : Gateway σ) (reply : String → Json × Gateway σ) : Reply σ :=
  match Jid.parse text with
  | .error e => (.error (.gateway (.invalidJid e)), g)
  | .ok jid =>
    let (json, g) := reply jid.render
    (.ok json, g)

def ban (text : String) (g : Gateway σ) : Reply σ :=
  aboutJid text g fun jid => (banView jid true, g.ban jid)

def unban (text : String) (g : Gateway σ) : Reply σ :=
  aboutJid text g fun jid => (banView jid false, g.unban jid)

def banned (text : String) (g : Gateway σ) : Reply σ :=
  aboutJid text g fun jid => (banView jid (g.isBanned jid), g)

/-! ## Requests -/

inductive ApiCall where
  | health
  | platforms
  | platformNodes (platform : String)
  | status
  | blacklist (platform hostname : String) (blacklisted : Bool)
  | ban (jid : String)
  | unban (jid : String)
  | banned (jid : String)
deriving DecidableEq, Repr

def ApiCall.isGuarded : ApiCall → Bool
  | .health | .platforms | .platformNodes _ => false
  | _ => true

def blacklistFields : List Field :=
  [⟨"platform", .text, none⟩, ⟨"hostname", .text, none⟩,
    ⟨"blacklisted", .flag, some (.flag true)⟩]

def jidFields : List Field :=
  [⟨"jid", .text, none⟩]

def readJid [Framework] (request : Request) : Except RequestFault String := do
  match ← Framework.record request jidFields with
  | [.text jid] => return jid
  | _ => throw .mismatched

def readCall [Framework] (route : Route) (request : Request) : Except RequestFault ApiCall :=
  match route with
  | .health => .ok .health
  | .platforms => .ok .platforms
  | .status => .ok .status
  | .platformNodes escaped =>
    match Framework.unescape? escaped with
    | some platform => .ok (.platformNodes platform)
    | none => .error .unreadablePath
  | .banned escaped =>
    match Framework.unescape? escaped with
    | some jid => .ok (.banned jid)
    | none => .error .unreadablePath
  | .ban => (readJid request).map .ban
  | .unban => (readJid request).map .unban
  | .blacklist => do
    match ← Framework.record request blacklistFields with
    | [.text platform, .text hostname, .flag blacklisted] =>
      return .blacklist platform hostname blacklisted
    | _ => throw .mismatched

/-- Answers a call that needs no more checks. -/
def answer (call : ApiCall) (g : Gateway σ) : Reply σ :=
  match call with
  | .health => (.ok health, g)
  | .platforms =>
    let (platforms, g) := platforms g
    (.ok (.texts platforms), g)
  | .platformNodes platform =>
    let (nodes, g) := platformNodes platform g
    (.ok (.arr (nodes.map (nodeView g.maxConsecutiveErrors))), g)
  | .status =>
    let (json, g) := status g
    (.ok json, g)
  | .blacklist platform hostname blacklisted => blacklist platform hostname blacklisted g
  | .ban jid => ban jid g
  | .unban jid => unban jid g
  | .banned jid => banned jid g

def respond : Except ServerError Json → Response
  | .ok json => Response.ok json
  | .error e => { status := e.status, body := .json e.body }

def serve [Framework] (route : Route) (request : Request) (server : Server σ) :
    Response × Server σ :=
  match readCall route request with
  | .error fault => ({ status := fault.status, body := .explanation }, server)
  | .ok call =>
    match if call.isGuarded then authorise server.config request else .ok () with
    | .error e => (respond (.error e), server)
    | .ok () =>
      let (reply, gateway) := answer call server.gateway
      (respond reply, { server with gateway })

def methodRefused (route : Route) : Response :=
  { status := 405, headers := [("allow", route.allowed)] }

def onRoute [Framework] (route : Route) (request : Request) (server : Server σ) :
    Response × Server σ :=
  match request.method, route.isPosted with
  | .get, false => serve route request server
  | .post, true => serve route request server
  | .head, false =>
    let (response, server) := serve route request server
    ({ response with body := .empty }, server)
  | _, _ => (methodRefused route, server)

/-- Answers a request.  Pages of any origin may read the response. -/
def handle [Framework] (request : Request) (server : Server σ) : Response × Server σ :=
  let route := Route.ofPath? request.path
  let (response, server) :=
    if request.method = .options then (Framework.preflight route, server)
    else match route with
      | none => ({ status := 404 }, server)
      | some route => onRoute route request server
  (response.withHeader "access-control-allow-origin" "*", server)

end Server

end Switchboard
