import Switchboard.Gateway.Error
import Switchboard.Json.Basic

/-! # Refusals of the server -/

namespace Switchboard

inductive ServerError where
  | gateway (error : GatewayError)
  | notFound (what : String)
  | forbidden (reason : String)
deriving DecidableEq, Repr

namespace ServerError

def message : ServerError → String
  | gateway error => error.message
  | notFound what => s!"Not found: {what}"
  | forbidden reason => s!"Forbidden: {reason}"

def status : ServerError → Nat
  | gateway (.directory (.alreadyExists ..)) => 409
  | gateway (.directory (.notFound ..)) => 404
  | gateway (.directory (.nodeNotFound _)) => 404
  | gateway (.directory (.failure _)) => 500
  | gateway (.noNodeAvailable _) => 503
  | gateway (.nodeOperation ..) => 503
  | gateway (.invalidJid _) => 400
  | notFound _ => 404
  | forbidden _ => 403

/-- What a caller is told: the wording, but not the details of a failing backend. -/
def publicMessage : ServerError → String
  | gateway (.directory (.failure _)) => "Datastore failure"
  | error => error.message

def body (error : ServerError) : Json :=
  .obj [("error", .str error.publicMessage)]

end ServerError

end Switchboard
