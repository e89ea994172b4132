import Switchboard.Directory.Error
import Switchboard.Jid.Error

/-! # Why the gateway refuses an action -/

namespace Switchboard

inductive GatewayError where
  | directory (error : DirectoryError)
  /-- Every node of the platform is blacklisted, failing, tried already or absent. -/
  | noNodeAvailable (platform : String)
  /-- An operation failed on the node that it was sent to. -/
  | nodeOperation (hostname reason : String)
  | invalidJid (error : JidError)
deriving DecidableEq, Repr

def GatewayError.message : GatewayError → String
  | .directory error => error.message
  | .noNodeAvailable platform => s!"No Rayo node available for platform [{platform}]"
  | .nodeOperation hostname reason => s!"Operation on Rayo node [{hostname}] failed: {reason}"
  | .invalidJid error => s!"Invalid JID: {error.message}"

end Switchboard
