import Switchboard.Columns.Runtime
import Switchboard.Directory.Backend
import Switchboard.Server.Api
import Switchboard.Server.Runtime

/-! # Starting a server -/

namespace Switchboard.Server

/-- Opens the directory that the settings name, with a cluster of its own if it needs one.  Opening
starts at the time `now`; the number says when it is done, both in milliseconds. -/
def openDirectory [Columns.Timer] (config : Config) (now : Nat) :
    Except DirectoryError Backend × Nat :=
  match config.backend with
  | .memory => (.ok (.memory {}), now)
  | .replicated =>
    let (result, cluster) :=
      Replicated.openOn config.store { clock := (Columns.Duration.ofMillis now).nanos }
    (result.map .replicated, cluster.now)

end Switchboard.Server
