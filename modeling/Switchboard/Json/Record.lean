import Switchboard.Directory.Record
import Switchboard.Jid.Basic
import Switchboard.Json.Basic

/-! # Records as JSON

Each record is written as an object of all its fields.  It is read from such an
object, in which other fields are passed over, or from the list of the fields in
order.  Every field has to be there with a value of its type.
-/

namespace Switchboard

namespace Node

def fieldNames : List String :=
  ["hostname", "ip_address", "platforms", "priority", "weight", "consecutive_errors",
    "blacklisted"]

def toFields (node : Node) : List (String × Json) :=
  [("hostname", .str node.hostname),
    ("ip_address", .str node.ipAddress),
    ("platforms", .texts node.platforms.toList),
    ("priority", .int node.priority.toInt),
    ("weight", .int node.weight.toInt),
    ("consecutive_errors", .nat node.consecutiveErrors.toNat),
    ("blacklisted", .bool node.blacklisted)]

def toJson (node : Node) : Json :=
  .obj node.toFields

def ofJson? (json : Json) : Option Node :=
  match json.record? fieldNames with
  | some [hostname, ip, platforms, priority, weight, errors, blacklisted] => do
    return {
      hostname := ← hostname.text?
      ipAddress := ← ip.text?
      platforms := .ofList (← platforms.texts?)
      priority := ← priority.int32?
      weight := ← weight.int32?
      consecutiveErrors := ← errors.uint32?
      blacklisted := ← blacklisted.flag? }
  | _ => none

end Node

namespace Call

def fieldNames : List String :=
  ["call_id", "client_jid", "node_jid"]

def toJson (call : Call) : Json :=
  .obj [("call_id", .str call.id), ("client_jid", .str call.client), ("node_jid", .str call.node)]

def ofJson? (json : Json) : Option Call :=
  match json.record? fieldNames with
  | some [id, client, node] => return ⟨← id.text?, ← client.text?, ← node.text?⟩
  | _ => none

end Call

namespace Client

def fieldNames : List String :=
  ["jid", "bare_jid", "resource", "platform"]

def toJson (client : Client) : Json :=
  .obj [("jid", .str client.jid), ("bare_jid", .str client.bareJid),
    ("resource", .str client.resource), ("platform", .str client.platform)]

def ofJson? (json : Json) : Option Client :=
  match json.record? fieldNames with
  | some [jid, bareJid, resource, platform] =>
    return ⟨← jid.text?, ← bareJid.text?, ← resource.text?, ← platform.text?⟩
  | _ => none

end Client

namespace Application

def fieldNames : List String :=
  ["bare_jid", "app_id", "platform", "name", "account_id", "permissions"]

def toJson (app : Application) : Json :=
  .obj [("bare_jid", .str app.bareJid), ("app_id", .str app.id), ("platform", .str app.platform),
    ("name", .str app.name), ("account_id", .str app.account),
    ("permissions", .str app.permissions)]

def ofJson? (json : Json) : Option Application :=
  match json.record? fieldNames with
  | some [bareJid, id, platform, name, account, permissions] =>
    return ⟨← bareJid.text?, ← id.text?, ← platform.text?, ← name.text?, ← account.text?,
      ← permissions.text?⟩
  | _ => none

end Application

namespace Jid

def toJson (jid : Jid) : Json :=
  .str jid.render

/-- Why a value is no JID. -/
inductive ReadError where
  | notText
  | invalid (error : JidError)
deriving DecidableEq, Repr

def ofJson (json : Json) : Except ReadError Jid :=
  match json with
  | .str text => (parse text).mapError .invalid
  | _ => .error .notText

end Jid

end Switchboard
