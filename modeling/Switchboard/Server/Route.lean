import Switchboard.Server.Http

/-! # Routes

The paths that the server knows.  Segments are compared as they are written; the
captured ones are decoded when the handler asks for them.
-/

namespace Switchboard.Http

inductive Route where
  | health
  | platforms
  /-- The nodes of a platform, whose name is still escaped and may be empty. -/
  | platformNodes (platform : String)
  | status
  | blacklist
  | ban
  | unban
  /-- The ban of a JID, which is still escaped and not empty. -/
  | banned (jid : String)
deriving DecidableEq, Repr

namespace Route

def ofPath? (path : String) : Option Route :=
  match (path.toList.splitOn '/').map String.ofList with
  | ["", "health"] => some health
  | ["", "platforms"] => some platforms
  | ["", "platforms", platform, "nodes"] => some (platformNodes platform)
  | ["", "admin", "status"] => some status
  | ["", "admin", "blacklist"] => some blacklist
  | ["", "admin", "ban"] => some ban
  | ["", "admin", "unban"] => some unban
  | ["", "admin", "banned", jid] => if jid.isEmpty then none else some (banned jid)
  | _ => none

def isPosted : Route → Bool
  | blacklist | ban | unban => true
  | _ => false

def allowed (route : Route) : String :=
  if route.isPosted then "POST" else "GET,HEAD"

end Route

end Switchboard.Http
