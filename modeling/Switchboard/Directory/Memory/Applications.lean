import Switchboard.Directory.Basic
import Switchboard.Directory.Memory.Listing

/-! # Clients, applications and addresses in memory

Clients by full JID, with the resources listed by bare JID; applications by bare
JID; and the addresses bound to applications, looked up from either side.
-/

namespace Switchboard.Memory

structure Applications where
  clients : Std.ExtTreeMap String Client := ∅
  /-- The resources bound under a bare JID. -/
  resources : Listing := ∅
  applications : Std.ExtTreeMap String Application := ∅
  /-- The application that an address is bound to. -/
  owners : Std.ExtTreeMap String String := ∅
  /-- The addresses bound to an application. -/
  addresses : Listing := ∅
deriving DecidableEq

namespace Applications

def storeClient (apps : Applications) (client : Client) : Applications :=
  { apps with
    resources := apps.resources.attach client.bareJid client.resource
    clients := apps.clients.insert client.jid client }

def removeClient (jid : String) : Command Applications Client := fun apps =>
  match apps.clients[jid]? with
  | none => (.error (.notFound .client jid), apps)
  | some client =>
    (.ok client,
      { apps with
        clients := apps.clients.erase jid
        resources := apps.resources.detach client.bareJid client.resource })

def store (app : Application) : Command Applications Application := fun apps =>
  if apps.applications.contains app.bareJid then
    (.error (.alreadyExists .application app.bareJid), apps)
  else (.ok app, { apps with applications := apps.applications.insert app.bareJid app })

def remove (jid : String) : Command Applications Application := fun apps =>
  match apps.applications[jid]? with
  | none => (.error (.notFound .application jid), apps)
  | some app =>
    (.ok app,
      { apps with
        applications := apps.applications.erase jid
        owners := (apps.addresses.values jid).foldl (·.erase ·) apps.owners
        addresses := apps.addresses.erase jid })

def unbind (apps : Applications) (address : String) : Applications :=
  match apps.owners[address]? with
  | none => apps
  | some jid =>
    { apps with
      owners := apps.owners.erase address
      addresses := apps.addresses.detach jid address }

/-- Binds an address to an application, taking it from any other. -/
def bind (jid : String) (apps : Applications) (address : String) : Applications :=
  let apps := apps.unbind address
  { apps with
    owners := apps.owners.insert address jid
    addresses := apps.addresses.attach jid address }

def storeAddresses (addresses : List String) (jid : String) : Command Applications Unit :=
  fun apps =>
    if apps.applications.contains jid then (.ok (), addresses.foldl (bind jid) apps)
    else (.error (.notFound .application jid), apps)

def forAddress? (apps : Applications) (address : String) : Option Application := do
  let jid ← apps.owners[address]?
  apps.applications[jid]?

end Applications

end Switchboard.Memory
