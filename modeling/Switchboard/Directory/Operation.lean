import Switchboard.Directory.Basic

/-! # Directory operations as data

Every operation of the directory contract as a value, so that a history is a list
of operations.  `Operation.run` carries one out on any directory.
-/

namespace Switchboard

inductive Operation where
  | storeNode (node : Node)
  | updateNode (node : Node)
  | removeNode (hostname : String)
  | getNode (hostname : String)
  | findNode (hostname : String)
  | nodeForIp (ip : String)
  | nodesForPlatform (platform : String)
  | platforms
  | storeCall (call : Call)
  | removeCall (id : String)
  | getCall (id : String)
  | nodeForCall (id : String)
  | calls
  | callsForClient (jid : String)
  | callsForNode (hostname : String)
  | storeClient (client : Client)
  | removeClient (jid : String)
  | getClient (jid : String)
  | clientResources (jid : String)
  | clients
  | storeApplication (app : Application)
  | getApplication (jid : String)
  | removeApplication (jid : String)
  | storeAddress (address jid : String)
  | storeAddresses (addresses : List String) (jid : String)
  | removeAddress (address : String)
  | applicationForAddress (address : String)
  | addressesForApplication (jid : String)
deriving DecidableEq

inductive Answer where
  | node (node : Option Node)
  | nodes (nodes : List Node)
  | call (call : Option Call)
  | client (client : Option Client)
  | application (app : Option Application)
  | text (text : Option String)
  | texts (texts : List String)
  | done
deriving DecidableEq

namespace Operation

variable {σ α : Type} [Directory σ]

def answer (f : α → Answer) (result : Except DirectoryError α × σ) :
    Except DirectoryError Answer × σ :=
  (result.1.map f, result.2)

/-- The result of a look-up as an answer, with the record that it was made. -/
def look (f : α → Answer) (lookup : σ → α) (s : σ) : Except DirectoryError Answer × σ :=
  (.ok (f (lookup s)), Directory.noteLookup s)

def run (s : σ) : Operation → Except DirectoryError Answer × σ
  | storeNode node => answer (.node ∘ some) (Directory.storeNode node s)
  | updateNode node => answer (.node ∘ some) (Directory.updateNode node s)
  | removeNode hostname => answer (.node ∘ some) (Directory.removeNode hostname s)
  | getNode hostname => look .node (Directory.getNode? hostname) s
  | findNode hostname =>
    ((Directory.findNode hostname s).map .node, Directory.noteLookup s)
  | nodeForIp ip => look .node (Directory.nodeForIp? ip) s
  | nodesForPlatform platform => look .nodes (Directory.nodesForPlatform platform) s
  | platforms => look .texts Directory.platforms s
  | storeCall call => answer (.call ∘ some) (Directory.storeCall call s)
  | removeCall id => answer (.call ∘ some) (Directory.removeCall id s)
  | getCall id => look .call (Directory.getCall? id) s
  | nodeForCall id => look .text (Directory.nodeForCall? id) s
  | calls => look .texts Directory.calls s
  | callsForClient jid => look .texts (Directory.callsForClient jid) s
  | callsForNode hostname => look .texts (Directory.callsForNode hostname) s
  | storeClient client => answer (.client ∘ some) (Directory.storeClient client s)
  | removeClient jid => answer (.client ∘ some) (Directory.removeClient jid s)
  | getClient jid => look .client (Directory.getClient? jid) s
  | clientResources jid => look .texts (Directory.clientResources jid) s
  | clients => look .texts Directory.clients s
  | storeApplication app => answer (.application ∘ some) (Directory.storeApplication app s)
  | getApplication jid => look .application (Directory.getApplication? jid) s
  | removeApplication jid => answer (.application ∘ some) (Directory.removeApplication jid s)
  | storeAddress address jid => answer (fun _ => .done) (Directory.storeAddress address jid s)
  | storeAddresses addresses jid =>
    answer (fun _ => .done) (Directory.storeAddresses addresses jid s)
  | removeAddress address => answer (fun _ => .done) (Directory.removeAddress address s)
  | applicationForAddress address =>
    look .application (Directory.applicationForAddress? address) s
  | addressesForApplication jid => look .texts (Directory.addressesForApplication jid) s

def runAll (s : σ) : List Operation → List (Except DirectoryError Answer) × σ
  | [] => ([], s)
  | op :: rest =>
    let (first, s) := run s op
    let (answers, s) := runAll s rest
    (first :: answers, s)

end Operation

end Switchboard
