/-! # Why a directory refuses an operation -/

namespace Switchboard

inductive Entity where
  | node
  | call
  | client
  | application
deriving DecidableEq, Repr

def Entity.label : Entity → String
  | .node => "Rayo node"
  | .call => "Call"
  | .client => "Client"
  | .application => "Application"

inductive DirectoryError where
  | alreadyExists (entity : Entity) (key : String)
  | notFound (entity : Entity) (key : String)
  /-- A call names a node that is not registered. -/
  | nodeNotFound (hostname : String)
  /-- The backend could not carry the operation out. -/
  | failure (detail : String)
deriving DecidableEq, Repr

def DirectoryError.message : DirectoryError → String
  | .alreadyExists entity key => s!"{entity.label} [{key}] already exists"
  | .notFound entity key => s!"{entity.label} [{key}] not found"
  | .nodeNotFound hostname => s!"Rayo node [{hostname}] not found for call"
  | .failure detail => s!"Datastore failure: {detail}"

end Switchboard
