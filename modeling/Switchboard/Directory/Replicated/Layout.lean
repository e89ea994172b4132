import Switchboard.Columns.Basic
import Switchboard.Directory.Record

/-! # The directory as tables

| table          | row key     | columns                                                |
|----------------|-------------|--------------------------------------------------------|
| `nodes`        | hostname    | ip, priority, weight, consecutive-errors, blacklisted, platforms |
| `platforms`    | platform    | one column per hostname                                |
| `ips`          | IP address  | node = hostname                                        |
| `calls`        | call id     | jid, node                                              |
| `client_calls` | client JID  | one column per call id                                 |
| `node_calls`   | hostname    | one column per call id                                 |
| `applications` | bare JID    | appId, platformId, name, accountId, permissions        |
| `addresses`    | address     | application JID = application JID                      |
| `clients`      | bare JID    | resource = platform                                    |

A record is written as mutations and read back from the columns of its row.
-/

namespace Switchboard.Replicated.Layout

open Switchboard.Columns Switchboard.Text

def nodes : String := "nodes"
def platforms : String := "platforms"
def ips : String := "ips"
def calls : String := "calls"
def clientCalls : String := "client_calls"
def nodeCalls : String := "node_calls"
def applications : String := "applications"
def addresses : String := "addresses"
def clients : String := "clients"

/-- The tables of a directory.  Only applications leave tombstones. -/
def tables : List TableDef :=
  [⟨nodes, 0⟩, ⟨platforms, 0⟩, ⟨ips, 0⟩, ⟨calls, 0⟩, ⟨clientCalls, 0⟩, ⟨nodeCalls, 0⟩,
    { name := applications }, ⟨addresses, 0⟩, ⟨clients, 0⟩]

def joinPlatforms (platforms : Std.ExtTreeSet String) : String :=
  String.intercalate "," platforms.toList

/-- The platform names in a text; empty names are passed over. -/
def splitPlatforms (text : String) : Std.ExtTreeSet String :=
  .ofList (((text.toList.splitOn ',').filter (!·.isEmpty)).map String.ofList)

def insertNode (node : Node) : Batch :=
  [.insert nodes node.hostname "ip" node.ipAddress,
    .insert nodes node.hostname "priority" (Numeral.ofInt node.priority.toInt),
    .insert nodes node.hostname "weight" (Numeral.ofInt node.weight.toInt),
    .insert nodes node.hostname "consecutive-errors"
      (Numeral.ofNat node.consecutiveErrors.toNat),
    .insert nodes node.hostname "blacklisted" (toString node.blacklisted),
    .insert nodes node.hostname "platforms" (joinPlatforms node.platforms),
    .insert ips node.ipAddress "node" node.hostname] ++
  node.platforms.toList.map fun platform =>
    .insert Layout.platforms platform node.hostname node.hostname

def leavePlatforms (hostname : String) (platforms : List String) : Batch :=
  platforms.map fun platform => .deleteColumn Layout.platforms platform hostname

/-- The node that the columns of its row describe; a faulty column counts as missing. -/
def node? (hostname : String) (columns : List Column) : Option Node :=
  if columns.isEmpty then none
  else some {
    hostname
    ipAddress := (column? columns "ip").getD ""
    platforms := splitPlatforms ((column? columns "platforms").getD "")
    priority := ((column? columns "priority").bind Numeral.int32?).getD 1
    weight := ((column? columns "weight").bind Numeral.int32?).getD 1
    consecutiveErrors := ((column? columns "consecutive-errors").bind Numeral.uint32?).getD 0
    blacklisted := column? columns "blacklisted" == some "true" }

def insertCall (call : Call) : Batch :=
  [.insert calls call.id "jid" call.client,
    .insert calls call.id "node" call.node,
    .insert clientCalls call.client call.id call.id,
    .insert nodeCalls call.node call.id call.id]

def unlistCall (call : Call) : Batch :=
  [.deleteColumn clientCalls call.client call.id, .deleteColumn nodeCalls call.node call.id]

def call? (id : String) (columns : List Column) : Option Call :=
  if columns.isEmpty then none
  else some ⟨id, (column? columns "jid").getD "", (column? columns "node").getD ""⟩

def insertApplication (app : Application) : Batch :=
  [.insert applications app.bareJid "appId" app.id,
    .insert applications app.bareJid "platformId" app.platform,
    .insert applications app.bareJid "name" app.name,
    .insert applications app.bareJid "accountId" app.account,
    .insert applications app.bareJid "permissions" app.permissions]

def application? (bareJid : String) (columns : List Column) : Option Application :=
  let field (name : String) := (column? columns name).getD ""
  if columns.isEmpty then none
  else some ⟨bareJid, field "appId", field "platformId", field "name", field "accountId",
    field "permissions"⟩

def client? (jid : String) (columns : List Column) : Option Client :=
  (column? columns (RawJid.resource jid)).map (Client.ofJid jid)

end Switchboard.Replicated.Layout
