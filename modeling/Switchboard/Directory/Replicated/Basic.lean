import Switchboard.Directory.Basic
import Switchboard.Directory.Replicated.Layout
import Switchboard.Directory.Replicated.Paging
import Switchboard.Directory.Replicated.Settings

/-! # The directory on a cluster

Every command first reads what it has to check and plans one batch; only then is
the batch sent.  A refusal therefore leaves the tables as they were.  Look-ups
take a failing read for an absent record, except `findNode`.
-/

namespace Switchboard

open Switchboard.Columns

structure Replicated where
  cluster : Cluster
  keyspace : String
deriving DecidableEq

namespace Replicated

def failure (context : String) (error : ClusterError) : DirectoryError :=
  .failure (context ++ ": " ++ error.message)

def fetch (r : Replicated) (table key : String) : Except DirectoryError (List Column) :=
  (r.cluster.row r.keyspace table key).mapError (failure s!"Could not read [{table}/{key}]")

/-- The columns of a row; none when the read fails. -/
def columns (r : Replicated) (table key : String) : List Column :=
  match r.fetch table key with
  | .ok columns => columns
  | .error _ => []

def columnNames (r : Replicated) (table key : String) : List String :=
  (r.columns table key).map (·.name)

def rowKeys (r : Replicated) (table : String) (projection : Projection) : List String :=
  let page (start : String) :=
    r.cluster.scan r.keyspace table ⟨start, some Paging.pageSize⟩ projection
  Paging.keysFrom page (r.cluster.rowCount r.keyspace table + 1) none

def fetchNode (r : Replicated) (hostname : String) : Except DirectoryError (Option Node) :=
  (r.fetch Layout.nodes hostname).map (Layout.node? hostname)

def fetchCall (r : Replicated) (id : String) : Except DirectoryError (Option Call) :=
  (r.fetch Layout.calls id).map (Layout.call? id)

def fetchApplication (r : Replicated) (jid : String) :
    Except DirectoryError (Option Application) :=
  (r.fetch Layout.applications jid).map (Layout.application? jid)

/-- The node with this hostname; none when the read fails. -/
def node? (r : Replicated) (hostname : String) : Option Node :=
  Layout.node? hostname (r.columns Layout.nodes hostname)

def application? (r : Replicated) (jid : String) : Option Application :=
  Layout.application? jid (r.columns Layout.applications jid)

def addressesOf (r : Replicated) (jid : String) : List String :=
  r.rowKeys Layout.addresses (.names [jid])

def checkIp (r : Replicated) (ip hostname : String) : Except DirectoryError Unit := do
  match column? (← r.fetch Layout.ips ip) "node" with
  | some owner =>
    if owner ≠ hostname then throw (.alreadyExists .node ip)
  | none => return

def noteRead (r : Replicated) : Replicated :=
  { r with cluster := r.cluster.noteLevel .one }

/-! ## Plans -/

/-- What a command has decided on after its reads. -/
inductive Plan (α : Type) where
  /-- Send a batch; `context` introduces the refusal if the cluster refuses it. -/
  | write (batch : Batch) (context : String) (answer : α)
  | keep (answer : α)

def carryOut {α : Type} (plan : Replicated → Except DirectoryError (Plan α)) :
    Command Replicated α := fun r =>
  match plan r with
  | .error e => (.error e, r.noteRead)
  | .ok (.keep answer) => (.ok answer, r.noteRead)
  | .ok (.write batch context answer) =>
    match r.cluster.execute r.keyspace batch .one with
    | (.ok (), cluster) => (.ok answer, { r with cluster })
    | (.error e, cluster) => (.error (failure context e), { r with cluster })

/-- A new node needs a free hostname and a free IP address. -/
def planStoreNode (node : Node) (r : Replicated) : Except DirectoryError (Plan Node) := do
  if (← r.fetchNode node.hostname).isSome then
    throw (.alreadyExists .node node.hostname)
  r.checkIp node.ipAddress node.hostname
  return .write (Layout.insertNode node) s!"Could not create node [{node.hostname}]" node

/-- The new record replaces the old one; the index entries that it no longer has are dropped. -/
def planUpdateNode (node : Node) (r : Replicated) : Except DirectoryError (Plan Node) := do
  match ← r.fetchNode node.hostname with
  | none => throw (.notFound .node node.hostname)
  | some previous =>
    r.checkIp node.ipAddress node.hostname
    let oldIp : Batch :=
      if previous.ipAddress ≠ node.ipAddress then [.deleteRow Layout.ips previous.ipAddress]
      else []
    let dropped := previous.platforms.toList.filter fun p => !node.serves p
    return .write (oldIp ++ Layout.leavePlatforms node.hostname dropped ++ Layout.insertNode node)
      s!"Could not update node [{node.hostname}]" node

def planRemoveNode (hostname : String) (r : Replicated) : Except DirectoryError (Plan Node) := do
  match ← r.fetchNode hostname with
  | none => throw (.notFound .node hostname)
  | some node =>
    let batch : Batch :=
      .deleteRow Layout.ips node.ipAddress ::
        (Layout.leavePlatforms hostname node.platforms.toList ++
          [.deleteRow Layout.nodes hostname])
    return .write batch s!"Could not remove node [{hostname}]" node

/-- A call needs a registered node; the index entries of the call it replaces are dropped. -/
def planStoreCall (call : Call) (r : Replicated) : Except DirectoryError (Plan Call) := do
  if (← r.fetchNode call.node).isNone then
    throw (.nodeNotFound call.node)
  let unlisted : Batch :=
    match ← r.fetchCall call.id with
    | none => []
    | some previous => Layout.unlistCall previous
  return .write (unlisted ++ Layout.insertCall call) s!"Could not store call [{call.id}]" call

def planRemoveCall (id : String) (r : Replicated) : Except DirectoryError (Plan Call) := do
  match ← r.fetchCall id with
  | none => throw (.notFound .call id)
  | some call =>
    return .write (Layout.unlistCall call ++ [.deleteRow Layout.calls id])
      s!"Could not remove call [{id}]" call

/-- A client is a column of the row of its bare JID. -/
def planStoreClient (client : Client) (_ : Replicated) : Except DirectoryError (Plan Client) :=
  .ok (.write [.insert Layout.clients client.bareJid client.resource client.platform]
    s!"Could not store client [{client.jid}]" client)

/-- The last resource under a bare JID takes the whole row with it. -/
def planRemoveClient (jid : String) (r : Replicated) : Except DirectoryError (Plan Client) := do
  let bare := RawJid.bare jid
  let columns ← r.fetch Layout.clients bare
  match Layout.client? jid columns with
  | none => throw (.notFound .client jid)
  | some client =>
    let batch : Batch :=
      if columns.length = 1 then [.deleteRow Layout.clients bare]
      else [.deleteColumn Layout.clients bare (RawJid.resource jid)]
    return .write batch s!"Could not remove client [{jid}]" client

def planStoreApplication (app : Application) (r : Replicated) :
    Except DirectoryError (Plan Application) := do
  if (← r.fetchApplication app.bareJid).isSome then
    throw (.alreadyExists .application app.bareJid)
  return .write (Layout.insertApplication app)
    s!"Could not create application [{app.bareJid}]" app

def planRemoveApplication (jid : String) (r : Replicated) :
    Except DirectoryError (Plan Application) := do
  match ← r.fetchApplication jid with
  | none => throw (.notFound .application jid)
  | some app =>
    let batch : Batch :=
      .deleteRow Layout.applications jid :: (r.addressesOf jid).map (.deleteRow Layout.addresses)
    return .write batch s!"Could not remove application [{jid}]" app

def bindAddress (jid : String) (r : Replicated) (address : String) :
    Except DirectoryError Batch := do
  let bound ← r.fetch Layout.addresses address
  let others := bound.filter (·.name ≠ jid)
  return others.map (fun column => .deleteColumn Layout.addresses address column.name) ++
    [.insert Layout.addresses address jid jid]

/-- Each address is bound once, however often it is listed. -/
def planStoreAddresses (addresses : List String) (jid : String) (r : Replicated) :
    Except DirectoryError (Plan Unit) := do
  if (← r.fetchApplication jid).isNone then
    throw (.notFound .application jid)
  let distinct : Std.ExtTreeSet String := .ofList addresses
  let batches ← distinct.toList.mapM (bindAddress jid r)
  return .write batches.flatten
    s!"Could not add addresses {Text.Quoted.list addresses} to application [{jid}]" ()

/-- Nothing is written for an address that is not bound. -/
def planRemoveAddress (address : String) (r : Replicated) : Except DirectoryError (Plan Unit) := do
  if (← r.fetch Layout.addresses address).isEmpty then
    return .keep ()
  return .write [.deleteRow Layout.addresses address] s!"Could not remove address [{address}]" ()

/-! ## The directory -/

instance : Directory Replicated where
  storeNode node := carryOut (planStoreNode node)
  updateNode node := carryOut (planUpdateNode node)
  removeNode hostname := carryOut (planRemoveNode hostname)
  getNode? hostname r := r.node? hostname
  findNode hostname r := r.fetchNode hostname
  nodeForIp? ip r := do
    let hostname ← column? (r.columns Layout.ips ip) "node"
    r.node? hostname
  nodesForPlatform platform r := (r.columnNames Layout.platforms platform).filterMap r.node?
  platforms r := r.rowKeys Layout.platforms (.all (some 1))
  storeCall call := carryOut (planStoreCall call)
  removeCall id := carryOut (planRemoveCall id)
  getCall? id r := Layout.call? id (r.columns Layout.calls id)
  calls r := r.rowKeys Layout.calls (.all (some 1))
  callsForClient jid r := r.columnNames Layout.clientCalls jid
  callsForNode hostname r := r.columnNames Layout.nodeCalls hostname
  storeClient client := carryOut (planStoreClient client)
  removeClient jid := carryOut (planRemoveClient jid)
  getClient? jid r := Layout.client? jid (r.columns Layout.clients (RawJid.bare jid))
  clientResources jid r := r.columnNames Layout.clients (RawJid.bare jid)
  clients r := r.rowKeys Layout.clients (.all (some 1))
  storeApplication app := carryOut (planStoreApplication app)
  getApplication? jid r := r.application? jid
  removeApplication jid := carryOut (planRemoveApplication jid)
  storeAddresses addresses jid := carryOut (planStoreAddresses addresses jid)
  removeAddress address := carryOut (planRemoveAddress address)
  applicationForAddress? address r := do
    let column ← (r.columns Layout.addresses address).head?
    r.application? column.value
  addressesForApplication jid r := r.addressesOf jid
  noteLookup := noteRead

end Replicated

end Switchboard
