import Switchboard.Directory.Basic
import Switchboard.Directory.Memory.Listing

/-! # Call records in memory

The records by id, with the ids listed by client and by node.
-/

namespace Switchboard.Memory

structure Calls where
  byId : Std.ExtTreeMap String Call := ∅
  byClient : Listing := ∅
  byNode : Listing := ∅
deriving DecidableEq

namespace Calls

def drop (calls : Calls) (call : Call) : Calls where
  byId := calls.byId.erase call.id
  byClient := calls.byClient.detach call.client call.id
  byNode := calls.byNode.detach call.node call.id

def put (calls : Calls) (call : Call) : Calls where
  byId := calls.byId.insert call.id call
  byClient := calls.byClient.attach call.client call.id
  byNode := calls.byNode.attach call.node call.id

/-- Registers a call in place of the one with its id. -/
def store (calls : Calls) (call : Call) : Calls :=
  match calls.byId[call.id]? with
  | none => calls.put call
  | some previous => (calls.drop previous).put call

def remove (id : String) : Command Calls Call := fun calls =>
  match calls.byId[id]? with
  | none => (.error (.notFound .call id), calls)
  | some call =>
    (.ok call,
      { byId := calls.byId.erase id
        byClient := calls.byClient.detach call.client id
        byNode := calls.byNode.detach call.node id })

end Calls

end Switchboard.Memory
